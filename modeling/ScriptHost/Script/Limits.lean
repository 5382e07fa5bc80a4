/-!
The limits that hold for every evaluation of a script.
-/

namespace ScriptHost.Script

/-- What a script may use. Where a limit says so, zero lifts it. -/
structure Limits where
  /-- milliseconds that one evaluation may take -/
  timeoutMs : Nat := 60000
  /-- bytes of a source -/
  sourceLength : Nat := 1000000
  /-- operations of one evaluation; zero lifts the limit -/
  operations : Nat := 1000000
  /-- calls inside one another -/
  callLevels : Nat := 64
  /-- levels of an expression outside functions; zero lifts the limit -/
  exprDepth : Nat := 64
  /-- levels of an expression inside a function; zero lifts the limit -/
  functionExprDepth : Nat := 32
  /-- bytes of a string; zero lifts the limit -/
  stringSize : Nat := 1000000
  /-- items of an array; zero lifts the limit -/
  arraySize : Nat := 100000
  /-- members of a map; zero lifts the limit -/
  mapSize : Nat := 100000
  /-- variables in scope -/
  variableCount : Nat := 10000
  /-- functions of a script -/
  functions : Nat := 1000
  /-- modules that are loaded -/
  modules : Nat := 10
deriving DecidableEq, Repr

/-- Whether a size is beyond a limit that zero lifts. -/
def exceeds (limit size : Nat) : Bool := limit != 0 && limit < size

end ScriptHost.Script
