import ScriptHost.Json.Value
import ScriptHost.Decimal.Shortest
/-!
Compact JSON text.

No blanks, members in the order of the list, control characters and quotes escaped, all other
characters as they are, numbers with a fraction in the fewest digits that read back.
-/

namespace ScriptHost

open Decimal

namespace Json

/-- How a JSON string writes one character. -/
def escapedChar (c : Char) : List Char :=
  if c = '\"' then ['\\', '\"']
  else if c = '\\' then ['\\', '\\']
  else if c = '\n' then ['\\', 'n']
  else if c = '\r' then ['\\', 'r']
  else if c = '\t' then ['\\', 't']
  else if c = '\x08' then ['\\', 'b']
  else if c = '\x0c' then ['\\', 'f']
  else if c < ' ' then ['\\', 'u', '0', '0', Nat.digitChar (c.toNat / 16), Nat.digitChar (c.toNat % 16)]
  else [c]

/-- A JSON string between its quotes. -/
def stringChars (s : String) : List Char :=
  '\"' :: (s.toList.flatMap escapedChar ++ ['\"'])

/-- A whole number in decimal. -/
def intChars (n : Int) : List Char :=
  if n < 0 then '-' :: digitsOf n.natAbs else digitsOf n.natAbs

/-- Doubles from `10^-5` up to `10^16` are written positionally. -/
def numberLayout : Layout where
  tie := .toEven
  isPositional d := -5 ≤ d.leading && d.leading ≤ 15
  signsExponent := true

/-- The text of a double. -/
def realChars (x : Binary64) : List Char := numberLayout.text x

mutual

/-- The compact text of a value. -/
def chars : Json → List Char
  | .null => ['n', 'u', 'l', 'l']
  | .bool true => ['t', 'r', 'u', 'e']
  | .bool false => ['f', 'a', 'l', 's', 'e']
  | .int n => intChars n
  | .real x => if x.isFinite then realChars x else ['n', 'u', 'l', 'l']
  | .str s => stringChars s
  | .arr xs => '[' :: itemsChars xs
  | .obj ms => '\x7b' :: membersChars ms

/-- The items of an array up to its closing bracket. -/
def itemsChars : List Json → List Char
  | [] => [']']
  | [x] => x.chars ++ [']']
  | x :: xs => x.chars ++ ',' :: itemsChars xs

/-- The members of an object up to its closing brace. -/
def membersChars : List (String × Json) → List Char
  | [] => ['\x7d']
  | [(k, v)] => stringChars k ++ ':' :: (v.chars ++ ['\x7d'])
  | (k, v) :: ms => stringChars k ++ ':' :: (v.chars ++ ',' :: membersChars ms)

end

/-- The compact text of a value. -/
def text (v : Json) : String := String.ofList v.chars

end Json

end ScriptHost
