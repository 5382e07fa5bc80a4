import ScriptHost.Script.Value
/-!
What a host offers to scripts.
-/

namespace ScriptHost.Script

/-- How a call of a host's function ends. -/
inductive HostReply where
  | value (v : Value)
  /-- the function raises an error with a text -/
  | raised (message : String)
  | panicked (text : String)

/-- A function of the host: it answers `none` to arguments that it does not take. -/
structure HostFunction where
  name : String
  call : List Value → Option HostReply

namespace HostFunction

/-- The number from `-2^63` to `2^63 - 1` that differs from `n` by a multiple of `2^64`. -/
def wrapped (n : Int) : Int := (n + Int.pow 2 63).emod (Int.pow 2 64) - Int.pow 2 63

/-- Doubles a whole number; what leaves the range wraps around. -/
def doubling (name : String) : HostFunction where
  name := name
  call
    | [.int n] => some (.value (.int (wrapped (2 * n))))
    | _ => none

/-- Makes a value of the host. -/
def making (name : String) : HostFunction where
  name := name
  call
    | [] => some (.value .host)
    | _ => none

/-- Raises an error with the text that it is given. -/
def failing (name : String) : HostFunction where
  name := name
  call
    | [.str s] => some (.raised s)
    | _ => none

/-- Panics with a text. -/
def panicking (name text : String) : HostFunction where
  name := name
  call
    | [] => some (.panicked text)
    | _ => none

end HostFunction

/-- What a host offers to scripts: functions, and values of a type of its own. -/
structure Api where
  functions : List HostFunction := []
  /-- the type of the host's values -/
  hostType : HostType := {}
  /-- whether the host takes down what scripts print -/
  listens : Bool := false

end ScriptHost.Script
