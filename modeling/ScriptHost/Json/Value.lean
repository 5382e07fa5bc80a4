import ScriptHost.Decimal.Binary64
import ScriptHost.Members
/-!
JSON values.

An object is its list of members. As read, they stand in the order of the text and keys may repeat;
`Json.canonical` sorts them by key and keeps the last of each key, and every value that the bridge
hands to a caller is canonical.
-/

namespace ScriptHost

open Decimal

/-- A JSON value. Whole numbers from `-2^63` to `2^64 - 1` are `int`, all others `real`. -/
inductive Json where
  | null
  | bool (b : Bool)
  | int (n : Int)
  | real (x : Binary64)
  | str (s : String)
  | arr (items : List Json)
  | obj (members : List (String × Json))
deriving Repr, Inhabited, BEq

namespace Json

mutual

/-- The value with the members of every object sorted and without repetition. -/
def canonical : Json → Json
  | .arr xs => .arr (canonicalItems xs)
  | .obj ms => .obj (Members.sort (canonicalMembers ms))
  | .null => .null
  | .bool b => .bool b
  | .int n => .int n
  | .real x => .real x
  | .str s => .str s

/-- `canonical` on each item. -/
def canonicalItems : List Json → List Json
  | [] => []
  | x :: xs => x.canonical :: canonicalItems xs

/-- `canonical` on the value of each member. -/
def canonicalMembers : List (String × Json) → List (String × Json)
  | [] => []
  | (k, v) :: ms => (k, v.canonical) :: canonicalMembers ms

end

/-- The value of the first member with the key, of an object. -/
def get? (key : String) : Json → Option Json
  | .obj ms => ms.lookup key
  | _ => none

end Json

end ScriptHost
