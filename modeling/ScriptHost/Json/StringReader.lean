import ScriptHost.Json.Fault
/-!
Reading JSON strings.
-/

namespace ScriptHost.Json

/-- The value of a hexadecimal digit. -/
def hexDigit? (c : Char) : Option Nat :=
  if '0' ≤ c ∧ c ≤ '9' then some (c.toNat - '0'.toNat)
  else if 'a' ≤ c ∧ c ≤ 'f' then some (c.toNat - 'a'.toNat + 10)
  else if 'A' ≤ c ∧ c ≤ 'F' then some (c.toNat - 'A'.toNat + 10)
  else none

/-- Four hexadecimal digits, most significant first. -/
def fourDigits? : List Char → Option Nat
  | a :: b :: c :: d :: _ => do
    let a ← hexDigit? a
    let b ← hexDigit? b
    let c ← hexDigit? c
    let d ← hexDigit? d
    pure (((a * 16 + b) * 16 + c) * 16 + d)
  | _ => none

/-- The code unit behind a `\u`: four bytes are taken, so a shorter rest ends inside the string. -/
def codeUnit (cs : List Char) (p : Position) : Except ReadError Nat :=
  if (cs.take 4).foldl (fun n c => n + c.utf8Size) 0 < 4 then .error (Fault.endInString.at (p.behind cs))
  else match fourDigits? cs with
    | some n => .ok n
    | none => .error (Fault.invalidEscape.at (p.skip 4 cs))

/-- The second half of a character beyond the first plane: `\u` and a low surrogate must follow. -/
def lowSurrogate (cs : List Char) (p : Position) : Except ReadError Nat :=
  match cs with
  | [] => .error (Fault.endInString.at p)
  | '\\' :: [] => .error (Fault.endInString.at (p.after '\\'))
  | '\\' :: 'u' :: ds => do
    let q := (p.after '\\').after 'u'
    let n ← codeUnit ds q
    if 0xDC00 ≤ n ∧ n ≤ 0xDFFF then pure n else .error (Fault.loneSurrogate.at (q.skip 4 ds))
  | '\\' :: ds => .error (Fault.endInHexEscape.at ((p.after '\\').skip 1 ds))
  | ds => .error (Fault.endInHexEscape.at (p.skip 1 ds))

/-- What an escape stands for and how many characters it takes behind its backslash. -/
def escape (cs : List Char) (p : Position) : Except ReadError (Char × Nat) :=
  match cs with
  | [] => .error (Fault.endInString.at p)
  | c :: ds =>
    if c = '\"' ∨ c = '\\' ∨ c = '/' then .ok (c, 1)
    else if c = 'b' then .ok ('\x08', 1)
    else if c = 'f' then .ok ('\x0c', 1)
    else if c = 'n' then .ok ('\n', 1)
    else if c = 'r' then .ok ('\r', 1)
    else if c = 't' then .ok ('\t', 1)
    else if c = 'u' then do
      let q := p.after c
      let n ← codeUnit ds q
      if 0xDC00 ≤ n ∧ n ≤ 0xDFFF then .error (Fault.loneSurrogate.at (q.skip 4 ds))
      else if 0xD800 ≤ n ∧ n ≤ 0xDBFF then
        let m ← lowSurrogate (ds.drop 4) (q.skip 4 ds)
        pure (Char.ofNat (0x10000 + (n - 0xD800) * 0x400 + (m - 0xDC00)), 11)
      else pure (Char.ofNat n, 5)
    else .error (Fault.invalidEscape.at (p.skip 1 cs))

/-- A string from behind its opening quote: `taken` are the characters found so far, last first, and
`skip` counts those that an escape has used already. -/
def stringFrom (taken : List Char) : Nat → List Char → Position → Reading String
  | _, [], p => .error (Fault.endInString.at p)
  | n + 1, c :: cs, p => stringFrom taken n cs (p.after c)
  | 0, c :: cs, p =>
    if c = '\"' then .ok (String.ofList taken.reverse, ⟨cs, p.after c⟩)
    else if c = '\\' then
      match escape cs (p.after c) with
      | .ok (x, n) => stringFrom (x :: taken) n cs (p.after c)
      | .error e => .error e
    else if c < ' ' then .error (Fault.controlCharacter.at (p.skip 1 (c :: cs)))
    else stringFrom (c :: taken) 0 cs (p.after c)

/-- A string from behind its opening quote. -/
def readString (c : Cursor) : Reading String := stringFrom [] 0 c.rest c.pos

end ScriptHost.Json
