import ScriptHost.Json.Printer
import ScriptHost.Json.Fault
import ScriptHost.Text.Quoted
/-!
How diagnostics name a JSON value that has the wrong shape.
-/

namespace ScriptHost.Json

/-- The value as diagnostics name it: its kind, and scalars in full. -/
def described : Json → String
  | .null => "null"
  | .bool b => s!"boolean `{b}`"
  | .int n => s!"integer `{n}`"
  | .real x => s!"floating point `{String.ofList (realChars x)}`"
  | .str s => "string " ++ Text.quoteString s
  | .arr _ => "sequence"
  | .obj _ => "map"

/-- What is said of a value of the wrong type. -/
def invalidType (unexpected expected : String) : String :=
  s!"invalid type: {unexpected}, expected {expected}"

/-- What is said of a list with the wrong number of items. -/
def invalidLength (found : Nat) (expected : String) : String :=
  s!"invalid length {found}, expected {expected}"

/-- What is said of an object that lacks a member. -/
def missingField (name : String) : String := s!"missing field `{name}`"

/-- What is said of an object in which a member repeats. -/
def duplicateField (name : String) : String := s!"duplicate field `{name}`"

end ScriptHost.Json
