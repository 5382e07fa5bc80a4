import ScriptHost.Json.Described
/-!
Types that callers ask for.

`Target.decode` fits a canonical value to a type and answers the value as the type shows it, or says
what does not fit.
-/

namespace ScriptHost

open Decimal Json

/-- The widths of whole numbers. -/
inductive Width where
  | u8 | i8 | u16 | i32 | u32 | i64 | u64
deriving DecidableEq, Repr

namespace Width

/-- The name of a width. -/
def name : Width → String
  | u8 => "u8" | i8 => "i8" | u16 => "u16" | i32 => "i32" | u32 => "u32" | i64 => "i64" | u64 => "u64"

/-- The least number of a width. -/
def low : Width → Int
  | u8 | u16 | u32 | u64 => 0
  | i8 => -Int.pow 2 7
  | i32 => -Int.pow 2 31
  | i64 => -Int.pow 2 63

/-- The greatest number of a width. -/
def high : Width → Int
  | u8 => Int.pow 2 8 - 1 | i8 => Int.pow 2 7 - 1 | u16 => Int.pow 2 16 - 1 | i32 => Int.pow 2 31 - 1
  | u32 => Int.pow 2 32 - 1 | i64 => Int.pow 2 63 - 1 | u64 => Int.pow 2 64 - 1

/-- A whole number of a width. -/
def decode (w : Width) : Json → Except String Int
  | .int n =>
    if w.low ≤ n ∧ n ≤ w.high then .ok n
    else .error s!"invalid value: {(Json.int n).described}, expected {w.name}"
  | v => .error (invalidType v.described w.name)

end Width

/-- A type that a caller may ask for. -/
inductive Target where
  | integer (w : Width)
  | float
  | boolean
  | string
  | character
  | unit
  | any
  /-- a whole number or `null` -/
  | optionalInteger
  | integers
  /-- an object whose members are whole numbers -/
  | integerMap
  /-- a whole number and a string, as an array -/
  | pair
  /-- an object with the whole numbers `x` and `y`, or the array of them -/
  | point
  /-- `"dot"`, a `circle` with a whole number, or a `rect` with the whole numbers `w` and `h` -/
  | shape
deriving DecidableEq, Repr

namespace Target

/-- The whole numbers of an array. -/
def integersOf : List Json → Except String (List Json)
  | [] => .ok []
  | v :: vs => do
    let n ← Width.i64.decode v
    let ns ← integersOf vs
    pure (.int n :: ns)

/-- The whole numbers of an object. -/
def membersOf : List (String × Json) → Except String (List (String × Json))
  | [] => .ok []
  | (k, v) :: ms => do
    let n ← Width.i64.decode v
    let ns ← membersOf ms
    pure ((k, .int n) :: ns)

/-- The members of an object that a type names, each a whole number; others are ignored. -/
def fieldsOf (names : List String) (ms : List (String × Json)) : Except String Json := do
  let found ← membersOf (ms.filter fun m => names.contains m.1)
  match names.find? fun name => (found.lookup name).isNone with
  | some name => .error (missingField name)
  | none => pure (.obj found)

/-- A pair from its array. -/
def pairOf (vs : List Json) : Except String Json :=
  match vs with
  | [] => .error (invalidLength 0 "a tuple of size 2")
  | v :: ws => do
    let n ← Width.i64.decode v
    match ws with
    | [] => .error (invalidLength 1 "a tuple of size 2")
    | .str s :: rest =>
      if rest.isEmpty then pure (.arr [.int n, .str s])
      else .error (invalidLength vs.length "fewer elements in array")
    | w :: _ => .error (invalidType w.described "a string")

/-- A point from its array. -/
def pointOf (vs : List Json) : Except String Json :=
  match vs with
  | [] => .error (invalidLength 0 "struct Point with 2 elements")
  | v :: ws => do
    let x ← Width.i64.decode v
    match ws with
    | [] => .error (invalidLength 1 "struct Point with 2 elements")
    | w :: rest =>
      let y ← Width.i64.decode w
      if rest.isEmpty then pure (.obj [("x", .int x), ("y", .int y)])
      else .error (invalidLength vs.length "fewer elements in array")

/-- A shape from the name of its case and what the case carries. -/
def shapeOf (case : String) (content : Option Json) : Except String Json :=
  match case with
  | "dot" =>
    match content with
    | none | some .null => .ok (.str "dot")
    | some v => .error (invalidType v.described "unit")
  | "circle" =>
    match content with
    | none => .error (invalidType "unit variant" "newtype variant")
    | some v => (Width.i64.decode v).map fun n => .obj [("circle", .int n)]
  | "rect" =>
    match content with
    | none => .error (invalidType "unit variant" "struct variant")
    | some (.obj ms) => (fieldsOf ["w", "h"] ms).map fun fields => .obj [("rect", fields)]
    | some v => .error (invalidType v.described "struct variant")
  | _ => .error s!"unknown variant `{case}`, expected one of `dot`, `circle`, `rect`"

/-- Fits a value to a type. -/
def decode (t : Target) (v : Json) : Except String Json :=
  match t, v with
  | any, v => .ok v
  | integer w, v => (w.decode v).map .int
  | float, .int n => .ok (.real (Binary64.ofInt n))
  | float, .real x => .ok (.real x)
  | float, v => .error (invalidType v.described "f64")
  | boolean, .bool b => .ok (.bool b)
  | boolean, v => .error (invalidType v.described "a boolean")
  | string, .str s => .ok (.str s)
  | string, v => .error (invalidType v.described "a string")
  | character, .str s =>
    if s.toList.length = 1 then .ok (.str s)
    else .error s!"invalid value: {(Json.str s).described}, expected a character"
  | character, v => .error (invalidType v.described "a character")
  | unit, .null => .ok .null
  | unit, v => .error (invalidType v.described "unit")
  | optionalInteger, .null => .ok .null
  | optionalInteger, v => (Width.i64.decode v).map .int
  | integers, .arr vs => (integersOf vs).map .arr
  | integers, v => .error (invalidType v.described "a sequence")
  | integerMap, .obj ms => (membersOf ms).map .obj
  | integerMap, v => .error (invalidType v.described "a map")
  | pair, .arr vs => pairOf vs
  | pair, v => .error (invalidType v.described "a tuple of size 2")
  | point, .arr vs => pointOf vs
  | point, .obj ms => fieldsOf ["x", "y"] ms
  | point, v => .error (invalidType v.described "struct Point")
  | shape, .str case => shapeOf case none
  | shape, .obj [(case, content)] => shapeOf case (some content)
  | shape, .obj _ => .error "invalid value: map, expected map with a single key"
  | shape, v => .error (invalidType v.described "string or map")

/-- The type of a name. -/
def named? : String → Option Target
  | "u8" => some (integer .u8)
  | "i8" => some (integer .i8)
  | "u16" => some (integer .u16)
  | "i32" => some (integer .i32)
  | "u32" => some (integer .u32)
  | "i64" => some (integer .i64)
  | "u64" => some (integer .u64)
  | "f64" => some float
  | "bool" => some boolean
  | "string" => some string
  | "char" => some character
  | "unit" => some unit
  | "value" => some any
  | "opt_i64" => some optionalInteger
  | "vec_i64" => some integers
  | "map_i64" => some integerMap
  | "pair" => some pair
  | "point" => some point
  | "shape" => some shape
  | _ => none

end Target

end ScriptHost
