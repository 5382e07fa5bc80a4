import ScriptHost.Script.Token
/-!
Why a text is no script.
-/

namespace ScriptHost.Script

/-- Why words do not make a script. -/
inductive Complaint where
  | lexical (f : LexFault)
  /-- a sign or word is missing; `purpose` says what it is for -/
  | missing (token purpose : String)
  | incomplete
  | undefinedVariable (s : String)
  | reserved (s : String)
  | unknownOperator (s : String)
  /-- the index of a map is no string -/
  | keyExpected (found : String)
  /-- the index of anything else is no whole number -/
  | positionExpected (wanted found : String)
  | constantAssigned (s : String)
  | invalidTarget
  | typoOfEqual
  | nameExpected
  | propertyExpected
  | expressionExpected (kind : String)
  | mismatch (wanted found : String)
  | duplicateProperty (s : String)
  | duplicateVariable (s : String)
  | duplicateParam (f s : String)
  | duplicateFunction (f : String) (arity : Nat)
  | functionNameExpected
  | paramsExpected (f : String)
  | bodyExpected (f : String)
  | nestedFunction
  | tooManyFunctions
  | outsideLoop
  | tooLarge (what : String) (limit : Nat)
  | tooDeep
deriving DecidableEq, Repr

namespace Complaint

/-- How many parameters a function has. -/
def arityText : Nat → String
  | 0 => "no parameters"
  | 1 => "1 parameter"
  | n => s!"{n} parameters"

/-- The wording of a complaint. -/
def message : Complaint → String
  | lexical f => f.message
  | missing token purpose => s!"Expecting '{token}' {purpose}"
  | incomplete => "Script is incomplete"
  | undefinedVariable s => s!"Undefined variable: {s}"
  | reserved s => if isName s then s!"'{s}' is a reserved keyword" else s!"'{s}' is a reserved symbol"
  | unknownOperator s => s!"Unknown operator: '{s}'"
  | keyExpected found => s!"Object map expects string index, not {found}"
  | positionExpected wanted found => s!"Array, string or bit-field expects {wanted} index, not {found}"
  | constantAssigned s =>
    if s = "" then "Cannot assign to a constant value" else s!"Cannot assign to constant {s}"
  | invalidTarget => "Expression cannot be assigned to"
  | typoOfEqual => "Possibly a typo of '=='?"
  | nameExpected => "Expecting name of a variable"
  | propertyExpected => "Expecting name of a property"
  | expressionExpected kind => s!"Expecting {kind} expression"
  | mismatch wanted found => s!"Expecting {wanted}, not {found}"
  | duplicateProperty s => s!"Duplicated property for object map literal: {s}"
  | duplicateVariable s => s!"Duplicated variable name: {s}"
  | duplicateParam f s => s!"Duplicated parameter {s} for function {f}"
  | duplicateFunction f arity => s!"Function {f} with {arityText arity} already exists"
  | functionNameExpected => "Expecting function name in function declaration"
  | paramsExpected f => s!"Expecting parameters for function {f}"
  | bodyExpected f => s!"Expecting body statement block for function {f}"
  | nestedFunction =>
    "Function definitions must be at global level and cannot be inside a block or another function"
  | tooManyFunctions => "Number of functions defined exceeds maximum limit"
  | outsideLoop => "Break statement should only be used inside a loop"
  | tooLarge what limit => s!"{what} exceeds the maximum limit ({limit})"
  | tooDeep => "Expression exceeds maximum complexity"

end Complaint

/-- A complaint and the place it is about. -/
structure ParseError where
  complaint : Complaint
  place : Place
deriving DecidableEq, Repr

/-- The wording of a complaint with its place, if it has one. -/
def ParseError.message (e : ParseError) : String :=
  if e.place = .nowhere then e.complaint.message else s!"{e.complaint.message} ({e.place.text})"

end ScriptHost.Script
