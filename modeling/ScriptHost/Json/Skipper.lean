import ScriptHost.Json.Reader
/-!
Skipping a JSON value.

A value that nobody asked for is only looked over: it may nest as deep as it likes, numbers may be out
of range, and surrogates need not pair up.
-/

namespace ScriptHost.Json

/-- Looks over a string from behind its opening quote; the number counts characters that an escape has
used already. -/
def skipStringFrom : Nat → List Char → Position → Except ReadError Cursor
  | _, [], p => .error (Fault.endInString.at p)
  | n + 1, c :: cs, p => skipStringFrom n cs (p.after c)
  | 0, c :: cs, p =>
    if c = '\"' then .ok ⟨cs, p.after c⟩
    else if c = '\\' then
      let q := p.after c
      match cs with
      | [] => .error (Fault.endInString.at q)
      | x :: xs =>
        if x = 'u' then
          match codeUnit xs (q.after x) with
          | .error e => .error e
          | .ok _ => skipStringFrom 5 cs q
        else if ['\"', '\\', '/', 'b', 'f', 'n', 'r', 't'].contains x then skipStringFrom 1 cs q
        else .error (Fault.invalidEscape.at (q.skip 1 cs))
    else if c < ' ' then .error (Fault.controlCharacter.at p)
    else skipStringFrom 0 cs (p.after c)

/-- The exponent of a number, from its `e` on. -/
def skipExponent (c : Cursor) : Except ReadError Cursor :=
  let c := c.next
  let c := match c.rest with
    | '+' :: _ | '-' :: _ => c.next
    | _ => c
  if c.rest.head?.any Char.isDigit then .ok (c.drop (digitCount c.rest))
  else .error (Fault.invalidNumber.at c.peeked)

/-- The rest of a number whose digits are looked over: an exponent or nothing. -/
def skipExponentOrEnd (c : Cursor) : Except ReadError Cursor :=
  match c.rest with
  | 'e' :: _ | 'E' :: _ => skipExponent c
  | _ => .ok c

/-- Looks over a number from behind its minus sign, if it has one. -/
def skipNumber (c : Cursor) : Except ReadError Cursor :=
  match c.rest with
  | [] => .error (Fault.invalidNumber.at c.peeked)
  | d :: ds =>
    if !d.isDigit then .error (Fault.invalidNumber.at c.peeked)
    else if d = '0' ∧ (ds.head?.any Char.isDigit) then .error (Fault.invalidNumber.at c.next.peeked)
    else
      let c := c.drop (digitCount c.rest)
      match c.rest with
      | '.' :: _ =>
        let c := c.next
        let count := digitCount c.rest
        if count = 0 then .error (Fault.invalidNumber.at c.peeked)
        else skipExponentOrEnd (c.drop count)
      | _ => skipExponentOrEnd c

/-- The kinds of containers. -/
inductive Container where
  | list
  | object
deriving DecidableEq

/-- The character that closes a container. -/
def Container.closing : Container → Char
  | list => ']'
  | object => '\x7d'

/-- The fault of a text that ends inside a container. -/
def Container.unended : Container → Fault
  | list => .endInList
  | object => .endInObject

/-- The fault of anything but a comma or the closing character behind an item. -/
def Container.unseparated : Container → Fault
  | list => .expectedCommaOrBracket
  | object => .expectedCommaOrBrace

/-- The key of a member and its colon; an item of a list has neither. -/
def skipKey (k : Container) (c : Cursor) : Except ReadError Cursor :=
  match k with
  | .list => .ok c
  | .object =>
    let c := c.skipSpace
    match c.rest with
    | [] => .error (Fault.endInObject.at c.peeked)
    | x :: _ =>
      if x = '\"' then do
        let c := c.next
        let c ← skipStringFrom 0 c.rest c.pos
        readColon c
      else .error (Fault.keyNotString.at c.peeked)

/-- Closes containers, innermost first, until an item follows; `fresh` tells that nothing stands in the
innermost one yet. Answers the containers that are still open and where the next item starts. -/
def skipClosing : Nat → Bool → List Container → Cursor → Reading (List Container)
  | 0, _, _, c => .error (Fault.tooDeep.at c.peeked)
  | _ + 1, _, [], c => .ok ([], c)
  | fuel + 1, fresh, k :: ks, c =>
    let c := c.skipSpace
    match c.rest with
    | [] => .error (k.unended.at c.peeked)
    | x :: _ =>
      if x = k.closing then skipClosing fuel false ks c.next
      else if fresh then (skipKey k c).map fun c => (k :: ks, c)
      else if x = ',' then (skipKey k c.next).map fun c => (k :: ks, c)
      else .error (k.unseparated.at c.peeked)

/-- Looks over values until no container is open. -/
def skipOpen : Nat → List Container → Cursor → Except ReadError Cursor
  | 0, _, c => .error (Fault.tooDeep.at c.peeked)
  | fuel + 1, open', c => do
    let c := c.skipSpace
    let (fresh, open', c) ← match c.rest with
      | [] => .error (Fault.endInValue.at c.peeked)
      | x :: _ =>
        if x = 'n' then (readWord ['u', 'l', 'l'] c.next).map fun c => (false, open', c)
        else if x = 't' then (readWord ['r', 'u', 'e'] c.next).map fun c => (false, open', c)
        else if x = 'f' then (readWord ['a', 'l', 's', 'e'] c.next).map fun c => (false, open', c)
        else if x = '-' then (skipNumber c.next).map fun c => (false, open', c)
        else if x.isDigit then (skipNumber c).map fun c => (false, open', c)
        else if x = '\"' then (skipStringFrom 0 c.next.rest c.next.pos).map fun c => (false, open', c)
        else if x = '[' then .ok (true, .list :: open', c.next)
        else if x = '\x7b' then .ok (true, .object :: open', c.next)
        else .error (Fault.expectedValue.at c.peeked)
    let (open', c) ← skipClosing (c.rest.length + 2) fresh open' c
    if open'.isEmpty then pure c else skipOpen fuel open' c

/-- The cursor behind the next value. -/
def skipValue (c : Cursor) : Except ReadError Cursor := skipOpen c.fuel [] c

end ScriptHost.Json
