import ScriptHost.Script.Limits
import ScriptHost.Script.Token
import ScriptHost.Text.Blank
/-!
Cutting a script into words.

`Token.scan` answers the words of a text with their places; blanks and comments separate words and
are dropped. What is no word ends the list as a fault, which a reader of the words meets in its turn. A text
between backticks is one word if nothing is put into it; otherwise its stretches are words among those of the
expressions between them.
-/

namespace ScriptHost.Script

open Decimal

/-- What is left of a script, and where it starts. -/
structure Head where
  rest : List Char
  place : Place

namespace Head

/-- Behind the next character. -/
def next (h : Head) : Head :=
  match h.rest with
  | [] => h
  | c :: cs => ⟨cs, h.place.after c⟩

/-- Behind the next `n` characters. -/
def drop : Nat → Head → Head
  | 0, h => h
  | n + 1, h => h.next.drop n

end Head

/-- Behind a comment that ends with its line. -/
def skipLine : List Char → Place → Head
  | [], p => ⟨[], p⟩
  | c :: cs, p => if c = '\n' then ⟨cs, p.after c⟩ else skipLine cs (p.after c)

/-- Behind comments that nest `depth` deep; `before` is the character before, if it may still begin or
end a comment. -/
def skipNested : Nat → Option Char → List Char → Place → Head
  | _, _, [], p => ⟨[], p⟩
  | depth, before, c :: cs, p =>
    if before = some '*' ∧ c = '/' then
      if depth ≤ 1 then ⟨cs, p.after c⟩ else skipNested (depth - 1) none cs (p.after c)
    else if before = some '/' ∧ c = '*' then skipNested (depth + 1) none cs (p.after c)
    else skipNested depth (some c) cs (p.after c)

/-! ## Strings -/

/-- The value of hexadecimal digits. -/
def hexValue? (cs : List Char) : Option Nat :=
  cs.foldlM (fun n c =>
    if c.isDigit then some (n * 16 + (c.toNat - '0'.toNat))
    else if 'a' ≤ c ∧ c ≤ 'f' then some (n * 16 + (c.toNat - 'a'.toNat + 10))
    else if 'A' ≤ c ∧ c ≤ 'F' then some (n * 16 + (c.toNat - 'A'.toNat + 10))
    else none) 0

/-- The character of a code point, if it has one. -/
def codedChar? (code : Nat) : Option Char :=
  if code < 0x110000 ∧ (code < 0xD800 ∨ 0xDFFF < code) then some (Char.ofNat code) else none

/-- What an escape stands for, and how many characters it takes behind its backslash; or how many
characters there are up to the one with which it fails. -/
def escaped (quote : Char) (cs : List Char) : Except Nat (Char × Nat) :=
  match cs with
  | [] => .error 0
  | c :: ds =>
    let coded (n : Nat) : Except Nat (Char × Nat) :=
      let digits := (ds.take n).takeWhile fun d => (hexValue? [d]).isSome
      if digits.length < n then .error (min (digits.length + 1) ds.length + 1)
      else
        match (hexValue? digits).bind codedChar? with
        | some x => .ok (x, n + 1)
        | none => .error (n + 1)
    match c with
    | '\\' => .ok ('\\', 1)
    | 't' => .ok ('\t', 1)
    | 'n' => .ok ('\n', 1)
    | 'r' => .ok ('\r', 1)
    | 'x' => coded 2
    | 'u' => coded 4
    | 'U' => coded 8
    | _ => if c = quote then .ok (c, 1) else .error 1

/-- How many characters a backslash at the end of a line takes behind it: the end of the line, and the
blanks before a column of the next one. -/
def continuation? (column : Nat) (cs : List Char) : Option Nat :=
  let indent (ds : List Char) : Nat :=
    ((ds.take (column - 1)).takeWhile fun c => Text.isBlank c && c != '\n').length
  match cs with
  | '\n' :: ds => some (indent ds + 1)
  | '\r' :: '\n' :: ds => some (indent ds + 2)
  | _ => none

/-- How strings are read: their quote, the bytes that they may have, and the column before which blanks
of a continued line are left out; without a column no line is continued. -/
structure Quotation where
  quote : Char
  limit : Nat
  column : Option Nat

/-- The characters up to the closing quote, last first, from behind the opening one: `skip` counts
characters that an escape, a doubled quote or a continued line has used already, `size` the bytes so
far. A string ends with its line and may not be longer than the limit. -/
def quoted (q : Quotation) :
    (taken : List Char) → (size : Nat) → (skip : Nat) → List Char → Place → Except LexFault (List Char) × Head
  | _, size, _, [], p =>
    (.error (if exceeds q.limit size then .stringTooLong q.limit else .unterminatedString), ⟨[], p⟩)
  | taken, size, n + 1, c :: cs, p => quoted q taken size n cs (p.after c)
  | taken, size, 0, c :: cs, p =>
    if exceeds q.limit size then (.error (.stringTooLong q.limit), ⟨c :: cs, p⟩)
    else if c = q.quote then
      if cs.head? = some q.quote then quoted q (q.quote :: taken) (size + q.quote.utf8Size) 1 cs (p.after c)
      else (.ok taken, ⟨cs, p.after c⟩)
    else if c = '\n' then (.error .unterminatedString, ⟨c :: cs, p⟩)
    else if c = '\r' ∧ cs.head? = some '\n' then quoted q taken size 0 cs (p.after c)
    else if c = '\\' then
      match q.column.bind (continuation? · cs) with
      | some n => quoted q taken size n cs (p.after c)
      | none =>
        if cs.head? = some '\n' then (.error .unterminatedString, ⟨cs, p.after c⟩)
        else
          match escaped q.quote cs with
          | .ok (x, n) => quoted q (x :: taken) (size + x.utf8Size) n cs (p.after c)
          | .error 0 => (.error .unterminatedString, ⟨cs, p.after c⟩)
          | .error (n + 1) =>
            (.error (.malformedEscape (String.ofList (c :: cs.take (n + 1)))), (⟨cs, p.after c⟩ : Head).drop n)
    else quoted q (c :: taken) (size + c.utf8Size) 0 cs (p.after c)

/-- A string from its opening quote on. -/
def scanString (limits : Limits) (h : Head) : Token × Head :=
  match quoted ⟨'\"', limits.stringSize, some (h.place.column + 1)⟩ [] 0 0 h.next.rest h.next.place with
  | (.ok taken, h) => (.str (String.ofList taken.reverse), h)
  | (.error f, h) => (.bad f, h)

/-- A character from its opening quote on. -/
def scanChar (limits : Limits) (h : Head) : Token × Head :=
  if h.next.rest.head? = some '\'' then (.bad (.malformedChar ""), h.next)
  else
    match quoted ⟨'\'', limits.stringSize, none⟩ [] 0 0 h.next.rest h.next.place with
    | (.ok [c], h) => (.char c, h)
    | (.ok taken, h) => (.bad (.malformedChar (String.ofList taken.reverse)), h)
    | (.error f, h) => (.bad f, h)

/-- A stretch of a text between backticks: up to the closing one, or up to where an expression is put in. A
doubled backtick stands for one. -/
def scanStretch (limit : Nat) : (taken : List Char) → (size : Nat) → List Char → Place → Token × Head
  | _, size, [], p => (.bad (if exceeds limit size then .stringTooLong limit else .unterminatedString), ⟨[], p⟩)
  | taken, size, c :: cs, p =>
    if c = '$' ∧ cs.head? = some '\x7b' then (.stretch (String.ofList taken.reverse), ⟨cs, p.after c⟩)
    else if exceeds limit size then (.bad (.stringTooLong limit), ⟨c :: cs, p⟩)
    else if c = '\x60' then
      match cs with
      | '\x60' :: ds => scanStretch limit (c :: taken) (size + 1) ds ((p.after c).after c)
      | ds => (.str (String.ofList taken.reverse), ⟨ds, p.after c⟩)
    else if c = '\r' ∧ cs.head? = some '\n' then scanStretch limit taken size cs (p.after c)
    else scanStretch limit (c :: taken) (size + c.utf8Size) cs (p.after c)

/-- Behind the end of a line, if one is here. -/
def Head.skipEnd (h : Head) : Head :=
  match h.rest with
  | '\n' :: cs | '\r' :: '\n' :: cs | '\r' :: cs => ⟨cs, h.place.after '\n'⟩
  | _ => h

/-- A text from its opening backtick on. It begins in the next line if nothing else is in this one. -/
def scanText (limits : Limits) (h : Head) : Token × Head :=
  let h := h.next.skipEnd
  scanStretch limits.stringSize [] 0 h.rest h.place

/-- The place of a stretch behind an expression: that of its first character. -/
def stretchPlace (h : Head) : Token → Place
  | .str s | .stretch s => if s.isEmpty then .nowhere else h.place
  | _ => if h.rest.isEmpty then .nowhere else h.place

/-! ## Numbers -/

/-- The value of decimal digits. -/
def decimalValue (cs : List Char) : Nat := cs.foldl (fun n c => n * 10 + (c.toNat - '0'.toNat)) 0

/-- The double nearest to `m · 10 ^ e`. -/
def nearest (m : Nat) (e : Int) : Binary64 :=
  Binary64.ofFloat (if e < 0 then Float.ofScientific m true e.natAbs else Float.ofScientific m false e.natAbs)

/-- The characters of a number from its first digit on, without separators, and how many characters it
takes. A point belongs to it if a decimal digit follows, or nothing that begins a name or a range; an `e`
if a decimal digit or a sign follows. -/
def numberText (isDigit : Char → Bool) : List Char → List Char × Nat
  | [] => ([], 0)
  | c :: cs =>
    let more (taken : List Char) : List Char × Nat :=
      let (text, n) := numberText isDigit cs
      (taken ++ text, n + 1)
    if c = '_' then more []
    else if isDigit c then more [c]
    else if c = '.' then
      match cs with
      | [] => ([], 0)
      | d :: _ =>
        if d.isDigit then more [c]
        else if d = '.' ∨ isNameStart d then ([], 0)
        else more [c, '0']
    else if c = 'e' ∨ c = 'E' then
      match cs with
      | [] => ([], 0)
      | d :: ds =>
        if d.isDigit then more [c]
        else if d = '+' ∨ d = '-' then
          let (text, n) := numberText isDigit ds
          ([c, d] ++ text, n + 2)
        else ([], 0)
    else ([], 0)

/-- The number that digits, at most one point and at most one exponent spell. A whole number that does
not fit becomes a double. -/
def decimalToken? (negative : Bool) (text : List Char) : Option Token :=
  let whole := text.takeWhile Char.isDigit
  let rest := text.dropWhile Char.isDigit
  let (fraction, rest, isWhole) := match rest with
    | '.' :: ds => (ds.takeWhile Char.isDigit, ds.dropWhile Char.isDigit, false)
    | ds => ([], ds, true)
  let exponent : Option Int := match rest with
    | [] => some 0
    | mark :: ds =>
      let (sign, ds) : Int × List Char := match ds with
        | '+' :: ds => (1, ds)
        | '-' :: ds => (-1, ds)
        | ds => (1, ds)
      if (mark != 'e' && mark != 'E') || ds.isEmpty || !ds.all Char.isDigit then none
      else some (sign * decimalValue ds)
  exponent.map fun e =>
    let n : Int := if negative then -(decimalValue whole : Int) else decimalValue whole
    if isWhole ∧ rest.isEmpty ∧ -Int.pow 2 63 ≤ n ∧ n < Int.pow 2 63 then .int n
    else
      let x := nearest (decimalValue (whole ++ fraction)) (e - fraction.length)
      .float (if negative then .ofFloat (-x.toFloat) else x)

/-- The value of digits of a base. -/
def radixValue? (base : Nat) (cs : List Char) : Option Nat :=
  if cs.isEmpty then none
  else cs.foldlM (fun n c => do
    let d ← hexValue? [c]
    if d < base then some (n * base + d) else none) 0

/-- The base that a mark behind a zero stands for. -/
def radixOf? (x : Char) : Option Nat :=
  if x = 'x' ∨ x = 'X' then some 16
  else if x = 'o' ∨ x = 'O' then some 8
  else if x = 'b' ∨ x = 'B' then some 2
  else none

/-- The base of a number that begins with a zero and the mark of a base, the mark, and what follows it;
separators may stand between zero and mark. -/
def based? (cs : List Char) : Option (Nat × Char × List Char) :=
  match cs with
  | '0' :: cs =>
    match cs.dropWhile (· == '_') with
    | x :: ds => (radixOf? x).map fun base => (base, x, ds)
    | [] => none
  | _ => none

/-- A number from its first digit on. Numbers in other bases than ten fill 64 bits, of which the highest
makes a number negative; they take neither sign nor fraction nor exponent. -/
def scanNumber (negative : Bool) (h : Head) : Token × Head :=
  match based? h.rest with
  | some (base, x, ds) =>
    let (digits, n) := numberText (fun c => (hexValue? [c]).any (· < base)) ds
    let text := if negative then x :: digits else digits
    let token := match radixValue? base text with
      | some n =>
        if n < Nat.pow 2 64 then .int (if n < Nat.pow 2 63 then n else n - Int.pow 2 64)
        else .bad (.malformedNumber (String.ofList text))
      | none => .bad (.malformedNumber (String.ofList text))
    (token, h.drop (h.rest.length - ds.length + n))
  | none =>
    let (text, n) := numberText Char.isDigit h.rest
    let spelt := if negative then '-' :: text else text
    ((decimalToken? negative text).getD (.bad (.malformedNumber (String.ofList spelt))), h.drop n)

/-! ## Names and signs -/

/-- The word that a name spells. -/
def wordOf (s : String) : Token :=
  match Keyword.all.find? fun k => k.text = s with
  | some k => .word k
  | none =>
    if reservedWords.contains s ∨ reservedFunctions.contains s then .reserved s
    else if s = "_" then .sign .underscore
    else if isName s then .name s
    else .bad (.malformedName s)

/-- A name from its first letter on. -/
def scanName (h : Head) : Token × Head :=
  let cs := h.rest.takeWhile isNameChar
  (wordOf (String.ofList cs), h.drop cs.length)

/-- A sign without a meaning of its own. -/
def reservedSign (s : String) : Token :=
  match foreignSigns.lookup s with
  | some advice => .bad (.foreign advice)
  | none => .reserved s

/-- A sign: the longest one that is spelt here. -/
def scanSign (h : Head) : Token × Head :=
  let here (s : String) : Bool := s.toList.isPrefixOf h.rest
  let reserved := reservedSigns.find? here
  let sign := Sign.all.find? fun s => here s.text
  match reserved, sign with
  | some r, some s =>
    if s.text.length < r.length then (reservedSign r, h.drop r.length) else (.sign s, h.drop s.text.length)
  | some r, none => (reservedSign r, h.drop r.length)
  | none, some s => (.sign s, h.drop s.text.length)
  | none, none => (.bad (.unexpected (String.ofList (h.rest.take 1))), h.next)

/-- How words are read. -/
structure Scan where
  /-- whether a minus before a digit is part of the number -/
  signed : Bool := true
  /-- for each text around here into which an expression is put: how many braces the expression has open -/
  inner : List Nat := []
  /-- whether a text goes on here behind an expression -/
  resumes : Bool := false

/-- How words are read behind a word. -/
def Scan.behind (s : Scan) (t : Token) : Scan :=
  match t, s.inner with
  | .stretch _, ds => ⟨t.precedesSign, 0 :: ds, false⟩
  | .sign .leftBrace, d :: ds | .sign .mapStart, d :: ds => ⟨t.precedesSign, (d + 1) :: ds, false⟩
  | .sign .rightBrace, d :: ds => if d ≤ 1 then ⟨t.precedesSign, ds, true⟩ else ⟨t.precedesSign, (d - 1) :: ds, false⟩
  | _, ds => ⟨t.precedesSign, ds, false⟩

/-- The words from here on; the number bounds how many words, blanks and comments are looked at. -/
def scanFrom (limits : Limits) : Nat → Scan → Head → List Placed
  | 0, _, h => [⟨.final, h.place⟩]
  | n + 1, s, h =>
    if s.resumes then
      let (token, h') := scanStretch limits.stringSize [] 0 h.rest h.place
      let placed : Placed := ⟨token, stretchPlace h token⟩
      match token with
      | .bad _ => [placed]
      | _ => placed :: scanFrom limits n (s.behind token) h'
    else
      match h.rest with
      | [] => [⟨.final, h.place⟩]
      | '/' :: '/' :: _ => scanFrom limits n s (skipLine h.rest h.place)
      | '/' :: '*' :: _ => scanFrom limits n s (skipNested 0 none h.rest h.place)
      | c :: cs =>
        if Text.isBlank c then scanFrom limits n s h.next
        else
          let (token, h') :=
            if c.isDigit then scanNumber false h
            else if s.signed ∧ c = '-' ∧ cs.head?.any Char.isDigit then scanNumber true h.next
            else if isNameStart c then scanName h
            else if c = '\"' then scanString limits h
            else if c = '\x60' then scanText limits h
            else if c = '\'' then scanChar limits h
            else scanSign h
          match token with
          | .bad (.malformedEscape _) => [⟨token, h'.place⟩]
          | .bad _ => [⟨token, h.place⟩]
          | _ => ⟨token, h.place⟩ :: scanFrom limits n (s.behind token) h'

/-- The words of a script. -/
def Token.scan (limits : Limits) (source : String) : List Placed :=
  let cs := source.toList
  scanFrom limits (cs.length + 1) {} ⟨cs, .first⟩

end ScriptHost.Script
