import ScriptHost.Script.Complaint
import ScriptHost.Script.Tree
import ScriptHost.Script.Value
/-!
What ends an evaluation early.

A script can catch what it throws itself and the faults of its operations. It cannot catch a limit
that it exceeds, a reserved word for the name of a function, the end of its time, or a panic. What
leaves a function is wrapped with the call that it left, unless it cannot be caught: then it is about
the call instead.
-/

namespace ScriptHost.Script

/-- Why an operation fails. -/
inductive Fault where
  /-- no function takes such arguments -/
  | functionNotFound (signature : String)
  | overflow (what : String) (l : Int) (op : Operator) (r : Int)
  | negationOverflow
  | divisionByZero (l r : Int)
  | moduloByZero (l r : Int)
  | malformedInteger (s reason : String)
  | invalidRadix (radix : Int)
  | mismatch (found wanted : String)
  | arrayBounds (size : Nat) (index : Int)
  | stringBounds (size : Nat) (index : Int)
  | bitBounds (size : Nat) (index : Int)
  | notIndexed (type : String)
  | propertyNotFound (s : String)
  | propertyUnknown (s type : String)
  | propertyReadOnly (s type value : String)
  | variableNotFound (s : String)
  | constantModified (s : String)
  | methodOnConstant (f : String)
  | notIterable
  | moduleNotFound (s : String)
deriving DecidableEq, Repr

/-- How many parts there are, as messages about bounds say. -/
def sizeText (whole one many : String) : Nat → String
  | 0 => s!"{whole} is empty"
  | 1 => s!"only 1 {one} in {whole}"
  | n => s!"only {n} {many} in {whole}"

namespace Fault

/-- The wording of a fault. -/
def message : Fault → String
  | functionNotFound signature => s!"Function not found: {signature}"
  | overflow what l op r => s!"{what} overflow: {l} {op.text} {r}"
  | negationOverflow => "integer overflow"
  | divisionByZero l r => s!"Division by zero: {l} / {r}"
  | moduloByZero l r => s!"Modulo division by zero or overflow: {l} % {r}"
  | malformedInteger s reason => s!"Error parsing integer number '{s}': {reason}"
  | invalidRadix radix => s!"Invalid radix: '{radix}'"
  | mismatch found wanted => s!"Data type incorrect: {found} (expecting {wanted})"
  | arrayBounds size index => s!"Array index {index} out of bounds: " ++ sizeText "array" "element" "elements" size
  | stringBounds size index =>
    s!"String index {index} out of bounds: " ++ sizeText "string" "character" "characters" size
  | bitBounds size index => s!"Bit-field index {index} out of bounds: only {size} bits in bit-field"
  | notIndexed type => s!"Indexer unavailable: {type}"
  | propertyNotFound s => s!"Property not found: {s}"
  | propertyUnknown s type => s!"Unknown property '{s}' - a getter is not registered for type '{type}'"
  | propertyReadOnly s type value =>
    s!"No writable property '{s}' - a setter is not registered for type '{type}' to handle '{value}'"
  | variableNotFound s => s!"Variable not found: {s}"
  | constantModified s => s!"Cannot modify constant {s}"
  | methodOnConstant f => s!"Non-pure method '{f}' cannot be called on constant"
  | notIterable => "For loop expects iterable type"
  | moduleNotFound s => s!"Module not found: {s}"

/-- The name of the kind of a fault, as a handler finds it. -/
def kind : Fault → String
  | functionNotFound _ => "ErrorFunctionNotFound"
  | overflow .. | negationOverflow | divisionByZero .. | moduloByZero .. | malformedInteger ..
  | invalidRadix _ => "ErrorArithmetic"
  | mismatch .. => "ErrorMismatchDataType"
  | arrayBounds .. => "ErrorArrayBounds"
  | stringBounds .. => "ErrorStringBounds"
  | bitBounds .. => "ErrorBitFieldBounds"
  | notIndexed _ => "ErrorIndexingType"
  | propertyNotFound _ => "ErrorPropertyNotFound"
  | propertyUnknown .. | propertyReadOnly .. => "ErrorDotExpr"
  | variableNotFound _ => "ErrorVariableNotFound"
  | constantModified _ => "ErrorAssignmentToConstant"
  | methodOnConstant _ => "ErrorNonPureMethodCallOnConstant"
  | notIterable => "ErrorFor"
  | moduleNotFound _ => "ErrorModuleNotFound"

/-- What a handler is told about a fault, besides its message, kind and place. -/
def details (f : Fault) : List (String × Value) :=
  match f with
  | functionNotFound s | methodOnConstant s => [("function", .str s)]
  | mismatch found wanted => [("requested", .str wanted), ("actual", .str found)]
  | arrayBounds size index | stringBounds size index | bitBounds size index =>
    [("length", .int size), ("index", .int index)]
  | notIndexed type => [("type", .str type)]
  | propertyUnknown .. | propertyReadOnly .. => [("property", .str f.message)]
  | propertyNotFound s | variableNotFound s | constantModified s => [("variable", .str s)]
  | moduleNotFound s => [("module", .str s)]
  | _ => []

end Fault

/-- What ends a script that goes beyond its bounds: a limit, or a word that may name no function. -/
inductive Excess where
  | operations
  | callLevels
  | variableCount
  | modules
  | stringSize
  | arraySize
  | mapSize
  | reserved (c : Complaint)
deriving DecidableEq, Repr

/-- The wording of an excess. -/
def Excess.message : Excess → String
  | operations => "Too many operations"
  | callLevels => "Stack overflow"
  | variableCount => "Too many variables defined"
  | modules => "Too many modules imported"
  | stringSize => "Length of string too large"
  | arraySize => "Size of array/BLOB too large"
  | mapSize => "Size of object map too large"
  | reserved c => s!"Syntax error: {c.message}"

/-- What ends an evaluation early. -/
inductive Raised where
  | thrown (v : Value) (p : Place)
  | fault (f : Fault) (p : Place)
  /-- what left a call of a function -/
  | call (f : String) (cause : Raised) (p : Place)
  /-- a bound is exceeded; not every step has a place -/
  | exceeded (x : Excess) (p : Option Place)
  /-- the time is over -/
  | timedOut
  /-- a function of the host panicked, or the script assigns to what holds no value -/
  | panicked (text : String)

namespace Raised

/-- Whether a script can catch it. -/
def isCatchable : Raised → Bool
  | thrown .. | fault .. | call .. => true
  | exceeded .. | timedOut | panicked _ => false

/-- The same, about another place. -/
def moved (p : Place) : Raised → Raised
  | thrown v _ => thrown v p
  | fault f _ => fault f p
  | call f cause _ => call f cause p
  | exceeded x _ => exceeded x (some p)
  | timedOut => timedOut
  | panicked text => panicked text

/-- What it becomes when it leaves a call of a function. -/
def leaving (f : String) (p : Place) (r : Raised) : Raised :=
  if r.isCatchable then call f r p else r.moved p

/-- What was raised in the innermost call. -/
def root : Raised → Raised
  | call _ cause _ => cause.root
  | r => r

/-- The place it is about. -/
def place? : Raised → Option Place
  | thrown _ p | fault _ p | call _ _ p => some p
  | exceeded _ p => p
  | timedOut | panicked _ => none

/-- How a thrown value is worded when it did not simply reach the top. -/
def thrownMessage (t : HostType) (v : Value) : String :=
  let s := v.text (.reported t)
  if s = "" then "Runtime error" else s!"Runtime error: {s}"

/-- A message about a place. -/
def located (s : String) (p : Place) : String := s!"{s} ({p.text})"

/-- The wording with the places of the innermost fault and of all calls that it left but the last, the
outermost place left out. -/
def bare (t : HostType) : Raised → String
  | thrown v _ => thrownMessage t v
  | fault f _ => f.message
  | call f cause _ =>
    let inner := match cause.place? with
      | some p => located (cause.bare t) p
      | none => cause.bare t
    s!"{inner}\nin call to function '{f}'"
  | exceeded x _ => x.message
  | timedOut => "Script terminated"
  | panicked text => text

/-- The wording with all places. -/
def message (t : HostType) (r : Raised) : String :=
  match r.place? with
  | some p => located (r.bare t) p
  | none => r.bare t

/-- The name of the kind, as a handler finds it. -/
def kind : Raised → String
  | thrown .. => "ErrorRuntime"
  | fault f _ => f.kind
  | call .. => "ErrorInFunctionCall"
  | exceeded .. | timedOut | panicked _ => "ErrorTerminated"

/-- What a handler is told besides message, kind and place. -/
def details : Raised → List (String × Value)
  | fault f _ => f.details
  | call f _ _ => [("function", .str f), ("source", .str "")]
  | _ => []

/-- The value that a handler gets: what was thrown, or a map that tells about a fault. -/
def caught (t : HostType) (r : Raised) : Value :=
  match r.root with
  | thrown v _ => v
  | _ =>
    let place := match r.place? with
      | some p => [("line", Value.int p.line), ("position", Value.int p.column)]
      | none => []
    .map (Members.sort (("message", .str (r.bare t)) :: ("error", .str r.kind) :: (place ++ r.details)))

end Raised

end ScriptHost.Script
