import ScriptHost.Script.Operation
/-!
The parts of values: items of arrays, characters of strings, bits of whole numbers, members of maps.

Indexes count from zero, negative ones from the end.
-/

namespace ScriptHost.Script

/-- The position that an index means among so many parts. -/
def position? (size : Nat) (index : Int) : Option Nat :=
  if 0 ≤ index then if index < size then some index.toNat else none
  else if -index ≤ size then some (size - index.natAbs) else none

/-- How many bits a whole number has. -/
def bitCount : Nat := 64

/-- A whole number without its sign: a negative one counts from the top. -/
def bitsOf (n : Int) : Nat := (n.emod (Int.pow 2 bitCount)).toNat

/-- The whole number that bits stand for. -/
def ofBits (n : Nat) : Int := if n < Nat.pow 2 (bitCount - 1) then n else n - Int.pow 2 bitCount

namespace Value

/-- The part at an index. -/
def item (t : HostType) (v index : Value) : Except Fault Value :=
  match v, index with
  | .array xs, .int i =>
    match (position? xs.length i).bind (xs[·]?) with
    | some x => .ok x
    | none => .error (.arrayBounds xs.length i)
  | .str s, .int i =>
    match (position? s.length i).bind (s.toList[·]?) with
    | some c => .ok (.char c)
    | none => .error (.stringBounds s.length i)
  | .int n, .int i =>
    match position? bitCount i with
    | some k => .ok (.bool ((bitsOf n).testBit k))
    | none => .error (.bitBounds bitCount i)
  | .map ms, .str k =>
    match ms.lookup k with
    | some x => .ok x
    | none => .error (.propertyNotFound k)
  | .array _, i | .str _, i | .int _, i => .error (.mismatch (i.typePath t) "i64")
  | .map _, i => .error (.mismatch (i.typePath t) "string")
  | v, i => .error (.notIndexed s!"{v.typeName t} [{i.typeName t}]")

/-- The part at an index where an assignment goes: a map counts as having every member. -/
def place (t : HostType) (v index : Value) : Except Fault Value :=
  match v, index with
  | .map ms, .str k => .ok ((ms.lookup k).getD .unit)
  | v, i => v.item t i

/-- The value with another part at an index that it has. A character is put where the index says without
its sign, so that an index from the end changes the character that lies as far from the start. -/
def withItem (t : HostType) (v index new : Value) : Except Fault Value :=
  match v, index, new with
  | .array xs, .int i, new => .ok (.array (xs.set ((position? xs.length i).getD xs.length) new))
  | .str s, .int i, .char c => .ok (.str (String.ofList (s.toList.set i.natAbs c)))
  | .str _, .int _, new => .error (.mismatch (new.typePath t) "char")
  | .int n, .int i, .bool b =>
    let k := (position? bitCount i).getD 0
    let cleared := bitsOf n - if (bitsOf n).testBit k then Nat.pow 2 k else 0
    .ok (.int (ofBits (if b then cleared + Nat.pow 2 k else cleared)))
  | .int _, .int _, new => .error (.mismatch (new.typePath t) "bool")
  | .map ms, .str k, new => .ok (.map (Members.put k new ms))
  | v, _, _ => .ok v

/-- That a value has no part at an index to put another value at. -/
def notStored (t : HostType) (v index new : Value) : Fault :=
  .notIndexed s!"{v.typeName t} [{index.typeName t}] = {new.typeName t}"

/-- A property of a value that is no map. -/
def property (t : HostType) (v : Value) (s : String) : Except Fault Value :=
  match v, s with
  | .str t, "len" => .ok (.int t.length)
  | .array xs, "len" => .ok (.int xs.length)
  | v, s => .error (.propertyUnknown s (v.typeName t))

/-- What of a part may not change, given what of the whole may not. The items and members that a constant
has are constants too. A member that it gains later is none, and characters of strings and bits of numbers
are no values of their own. -/
def fixedPart (fixed : Option Value) (index : Value) : Option Value :=
  match fixed, index with
  | some (.array xs), .int i => (position? xs.length i).bind (xs[·]?)
  | some (.map ms), .str k => ms.lookup k
  | _, _ => none

end Value

/-! ## Compound assignments -/

/-- What a compound assignment makes of a value: at once, by so many calls of functions, or not at all. -/
inductive Update where
  | atOnce (r : Except Fault Value)
  /-- by a function of its own -/
  | called (r : Except Fault Value)
  /-- as the operator does -/
  | asOperator

/-- What a compound assignment makes of an old value and an operand. An array takes in what is no array
as one more item. -/
def update (t : HostType) (op : Operator) (old new : Value) : Update :=
  match op, old, new with
  | .plus, .array xs, .array ys => .atOnce (.ok (.array (xs ++ ys)))
  | .plus, .array xs, v => .atOnce (.ok (.array (xs ++ [v])))
  | .plus, .map _, .map _ | .plus, .str _, .unit | .plus, .str _, .bool _ | .plus, .str _, .int _
  | .plus, .str _, .float _ | .plus, .str _, .array _ | .plus, .str _, .map _ | .plus, .str _, .range ..
  | .plus, .str _, .function _ | .plus, .str _, .host =>
    match called t op old new with
    | some r => .called r.result
    | none => .asOperator
  | op, .int _, .int _ | op, .float _, .float _ | op, .float _, .int _ | op, .str _, .str _
  | op, .str _, .char _ | op, .char _, .char _ | op, .char _, .str _ =>
    match atOnce op old new with
    | some r => .atOnce r
    | none => .asOperator
  | _, _, _ => .asOperator

end ScriptHost.Script
