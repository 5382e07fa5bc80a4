import ScriptHost.Bridge.Engine
/-!
What engines leave behind for their host to read.
-/

namespace ScriptHost

/-- An entry of an engine's log. -/
inductive LogEntry where
  /-- what became of a message -/
  | disposition (d : Disposition)
  /-- what a blocking call yielded -/
  | outcome (o : Outcome)
  /-- the id of an invocation that the engine made -/
  | invoked (id : InvocationId)
  | flag (b : Bool)
  | gate (g : Gate)
  | shutdown
  /-- a line that a script printed -/
  | printed (text : String)
  /-- a line that a script printed for debugging, and where it did so -/
  | debugged (text : String) (line column : Nat)

end ScriptHost
