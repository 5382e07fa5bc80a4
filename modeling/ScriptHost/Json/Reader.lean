import ScriptHost.Json.StringReader
import ScriptHost.Json.NumberReader
/-!
Reading JSON values.

`readPrefix` takes one value from the front of a text and keeps the members of objects as written;
`read` takes a whole text and answers a canonical value. Arrays and objects nest 127 levels deep at
most.
-/

namespace ScriptHost.Json

/-- The letters of a word, of which the first has been looked at already. -/
def readWord : List Char → Cursor → Except ReadError Cursor
  | [], c => .ok c
  | w :: ws, c =>
    match c.rest with
    | [] => .error (Fault.endInValue.at c.pos)
    | x :: _ => if x = w then readWord ws c.next else .error (Fault.expectedIdent.at c.peeked)

/-- One more than the number of arrays and objects that may nest. -/
def depthLimit : Nat := 128

/-- The position of the next item or the end of an array, behind its opening bracket (`first`) or
behind an item: whether there is an item, and the cursor at it or at the closing bracket. -/
def nextItem (first : Bool) (c : Cursor) : Reading Bool :=
  let c := c.skipSpace
  match c.rest with
  | [] => .error (Fault.endInList.at c.peeked)
  | x :: _ =>
    if x = ']' then .ok (false, c)
    else if first then .ok (true, c)
    else if x = ',' then
      let c := c.next.skipSpace
      match c.rest with
      | [] => .error (Fault.endInValue.at c.peeked)
      | y :: _ => if y = ']' then .error (Fault.trailingComma.at c.peeked) else .ok (true, c)
    else .error (Fault.expectedCommaOrBracket.at c.peeked)

/-- As `nextItem`, for the members of an object: the cursor is at the quote of a key or at the closing
brace. -/
def nextMember (first : Bool) (c : Cursor) : Reading Bool :=
  let c := c.skipSpace
  match c.rest with
  | [] => .error (Fault.endInObject.at c.peeked)
  | x :: _ =>
    if x = '\x7d' then .ok (false, c)
    else if first then
      if x = '\"' then .ok (true, c) else .error (Fault.keyNotString.at c.peeked)
    else if x = ',' then
      let c := c.next.skipSpace
      match c.rest with
      | [] => .error (Fault.endInValue.at c.peeked)
      | y :: _ =>
        if y = '\"' then .ok (true, c)
        else if y = '\x7d' then .error (Fault.trailingComma.at c.peeked)
        else .error (Fault.keyNotString.at c.peeked)
    else .error (Fault.expectedCommaOrBrace.at c.peeked)

/-- The colon behind a key. -/
def readColon (c : Cursor) : Except ReadError Cursor :=
  let c := c.skipSpace
  match c.rest with
  | [] => .error (Fault.endInObject.at c.peeked)
  | x :: _ => if x = ':' then .ok c.next else .error (Fault.expectedColon.at c.peeked)

mutual

/-- One value, members as written. The numbers bound the calls and the levels that may still open. -/
def readValue : Nat → Nat → Cursor → Reading Json
  | 0, _, c => .error (Fault.tooDeep.at c.peeked)
  | fuel + 1, depth, c =>
    let c := c.skipSpace
    match c.rest with
    | [] => .error (Fault.endInValue.at c.peeked)
    | x :: _ =>
      if x = 'n' then (readWord ['u', 'l', 'l'] c.next).map fun c => (.null, c)
      else if x = 't' then (readWord ['r', 'u', 'e'] c.next).map fun c => (.bool true, c)
      else if x = 'f' then (readWord ['a', 'l', 's', 'e'] c.next).map fun c => (.bool false, c)
      else if x = '-' then readNumber true c.next
      else if x.isDigit then readNumber false c
      else if x = '\"' then (readString c.next).map fun r => (.str r.1, r.2)
      else if x = '[' then
        if depth ≤ 1 then .error (Fault.tooDeep.at c.peeked)
        else readItems fuel (depth - 1) [] c.next
      else if x = '\x7b' then
        if depth ≤ 1 then .error (Fault.tooDeep.at c.peeked)
        else readMembers fuel (depth - 1) [] c.next
      else .error (Fault.expectedValue.at c.peeked)

/-- The items of an array that follow `taken`, last first, and its closing bracket. -/
def readItems : Nat → Nat → List Json → Cursor → Reading Json
  | 0, _, _, c => .error (Fault.tooDeep.at c.peeked)
  | fuel + 1, depth, taken, c =>
    match nextItem taken.isEmpty c with
    | .error e => .error e
    | .ok (false, c) => .ok (.arr taken.reverse, c.next)
    | .ok (true, c) =>
      match readValue fuel depth c with
      | .error e => .error e
      | .ok (v, c) => readItems fuel depth (v :: taken) c

/-- The members of an object that follow `taken`, last first, and its closing brace. -/
def readMembers : Nat → Nat → List (String × Json) → Cursor → Reading Json
  | 0, _, _, c => .error (Fault.tooDeep.at c.peeked)
  | fuel + 1, depth, taken, c =>
    match nextMember taken.isEmpty c with
    | .error e => .error e
    | .ok (false, c) => .ok (.obj taken.reverse, c.next)
    | .ok (true, c) =>
      match readString c.next with
      | .error e => .error e
      | .ok (k, c) =>
        match readColon c with
        | .error e => .error e
        | .ok c =>
          match readValue fuel depth c with
          | .error e => .error e
          | .ok (v, c) => readMembers fuel depth ((k, v) :: taken) c

end

/-- Two calls for each character are enough. -/
def Cursor.fuel (c : Cursor) : Nat := 2 * c.rest.length + 2

/-- One value at a cursor, members as written, below `depth` levels that may still open. -/
def readAt (depth : Nat) (c : Cursor) : Reading Json := readValue c.fuel depth c

/-- Only blanks may follow. -/
def readEnd (c : Cursor) : Except ReadError Unit :=
  let c := c.skipSpace
  if c.rest.isEmpty then .ok () else .error (Fault.trailingCharacters.at c.peeked)

/-- One value at the front of a text, members as written, and what follows it. -/
def readPrefix (s : String) : Reading Json := readAt depthLimit (.ofString s)

/-- The one value that a text holds, members as written. -/
def readWritten (s : String) : Except ReadError Json := do
  let (v, c) ← readPrefix s
  readEnd c
  pure v

/-- The one value that a text holds. -/
def read (s : String) : Except ReadError Json := (readWritten s).map canonical

end ScriptHost.Json
