import ScriptHost.Decimal.Shortest
import ScriptHost.Members
import ScriptHost.Text.Quoted
/-!
What scripts compute with.

Values have two texts: the plain one, in which a string is its characters, and the detailed one, in
which it is quoted; items of collections are always shown in detail. What scripts print is written in one
manner, and what leaves a script in another: they differ in characters and in values of the host. A
value of the host has no parts that a script could see: only its type has names.
-/

namespace ScriptHost.Script

open Decimal

/-- A value of a script. -/
inductive Value where
  | unit
  | bool (b : Bool)
  | int (n : Int)
  | float (x : Binary64)
  | char (c : Char)
  | str (s : String)
  | array (items : List Value)
  /-- members sorted by key -/
  | map (members : List (String × Value))
  | range (low high : Int) (inclusive : Bool)
  /-- a pointer to the function of a name -/
  | function (name : String)
  /-- a value of the host -/
  | host
deriving Inhabited, Repr

/-- The names of the type of the host's values. -/
structure HostType where
  /-- the name that scripts see -/
  name : String := ""
  /-- the full name, as callers see it -/
  path : String := ""

/-- A manner of writing values. -/
structure Manner where
  /-- how values of the host are shown -/
  host : String
  /-- whether characters are quoted in detail -/
  quotesChars : Bool

/-- The manner in which scripts print and join texts. -/
def Manner.printed (t : HostType) : Manner := ⟨t.name, false⟩

/-- The manner in which values are reported to callers. -/
def Manner.reported (t : HostType) : Manner := ⟨t.path, true⟩

namespace Value

/-! ## Texts -/

/-- The greatest double that is written positionally. -/
def positionalHigh : Binary64 := ⟨0x42a2309ce0000000⟩

/-- The smallest double above zero that is written positionally. -/
def positionalLow : Binary64 := ⟨0x3d3c25c260000000⟩

/-- The plain text of a double: positional between two bounds, and zero without a sign. -/
def floatText (x : Binary64) : String :=
  if x.isZero then "0.0"
  else
    let magnitude := x.bits.toNat % Nat.pow 2 63
    let isPositional := positionalLow.bits.toNat ≤ magnitude && magnitude ≤ positionalHigh.bits.toNat
    String.ofList (Layout.text ⟨.up, fun _ => isPositional, false⟩ x)

/-- The detailed text of a double: positional from `10^-4` up to `10^16`. -/
def floatDetail (x : Binary64) : String :=
  String.ofList (Layout.text ⟨.up, fun d => d.digits == 0 || (-4 ≤ d.leading && d.leading ≤ 15), false⟩ x)

/-- The text of a range. -/
def rangeText (low high : Int) (inclusive : Bool) : String :=
  if inclusive then s!"{low}..={high}" else s!"{low}..{high}"

mutual

/-- The detailed text of a value. -/
def detail (m : Manner) : Value → String
  | .unit => "()"
  | .bool b => if b then "true" else "false"
  | .int n => s!"{n}"
  | .float x => floatDetail x
  | .char c => if m.quotesChars then Text.quoteChar c else String.singleton c
  | .str s => Text.quoteString s
  | .array xs => "[" ++ detailItems m xs ++ "]"
  | .map ms => "#\x7b" ++ detailMembers m ms ++ "\x7d"
  | .range low high inclusive => rangeText low high inclusive
  | .function f => s!"Fn({f})"
  | .host => m.host

/-- The items of an array in detail. -/
def detailItems (m : Manner) : List Value → String
  | [] => ""
  | [x] => x.detail m
  | x :: y :: xs => x.detail m ++ ", " ++ detailItems m (y :: xs)

/-- The members of a map in detail. -/
def detailMembers (m : Manner) : List (String × Value) → String
  | [] => ""
  | [(k, v)] => Text.quoteString k ++ ": " ++ v.detail m
  | (k, v) :: x :: xs => Text.quoteString k ++ ": " ++ v.detail m ++ ", " ++ detailMembers m (x :: xs)

end

/-- The plain text of a value. -/
def text (m : Manner) : Value → String
  | .unit => ""
  | .float x => floatText x
  | .char c => String.singleton c
  | .str s => s
  | v => v.detail m

/-! ## Types -/

/-- The name of a value's type, as scripts see it. -/
def typeName (t : HostType) : Value → String
  | .unit => "()"
  | .bool _ => "bool"
  | .int _ => "i64"
  | .float _ => "f64"
  | .char _ => "char"
  | .str _ => "string"
  | .array _ => "array"
  | .map _ => "map"
  | .range _ _ inclusive => if inclusive then "range=" else "range"
  | .function _ => "Fn"
  | .host => t.name

/-- The full name of a value's type. -/
def typePath (t : HostType) : Value → String
  | .range _ _ inclusive =>
    if inclusive then "core::ops::range::RangeInclusive<i64>" else "core::ops::range::Range<i64>"
  | .host => t.path
  | v => v.typeName t

/-- A value's type as the signature of a function names it. -/
def signatureName (t : HostType) : Value → String
  | .str _ => "&str | ImmutableString | String"
  | v => v.typeName t

/-! ## Sizes -/

/-- What a value holds, its parts included: items of arrays, members of maps, bytes of strings. -/
structure Extent where
  items : Nat
  members : Nat
  bytes : Nat

/-- The extent of two values together. -/
def Extent.add (a b : Extent) : Extent := ⟨a.items + b.items, a.members + b.members, a.bytes + b.bytes⟩

mutual

/-- What a value holds. -/
def extent : Value → Extent
  | .str s => ⟨0, 0, s.utf8ByteSize⟩
  | .array xs => extentItems xs
  | .map ms => extentMembers ms
  | _ => ⟨0, 0, 0⟩

/-- What the items of an array hold, and the items themselves. -/
def extentItems : List Value → Extent
  | [] => ⟨0, 0, 0⟩
  | x :: xs => (x.extent.add ⟨1, 0, 0⟩).add (extentItems xs)

/-- What the members of a map hold, and the members themselves. -/
def extentMembers : List (String × Value) → Extent
  | [] => ⟨0, 0, 0⟩
  | (_, v) :: ms => (v.extent.add ⟨0, 1, 0⟩).add (extentMembers ms)

end

end Value

end ScriptHost.Script
