import ScriptHost.Bridge.Engine
/-!
What the factory of an engine does on the engine thread before it hands the engine over.
-/

namespace ScriptHost

/-- A step of a factory. -/
inductive FactoryStep where
  | ready
  | initFailed (reason : String)
  | post (raw : String)
  | fail (f : Failure)
  | panic (text : String)
deriving DecidableEq, Repr

namespace FactoryStep

/-- Takes the steps in order; a failure or a panic ends the factory. -/
def conduct : List FactoryStep → Conduct (Except Abort Unit)
  | [] => .done (.ok ())
  | .ready :: rest => .act .ready fun _ => conduct rest
  | .initFailed reason :: rest => .act (.initFailed reason) fun _ => conduct rest
  | .post raw :: rest => .act (.post raw) fun _ => conduct rest
  | .fail f :: _ => .done (.error (.failed f))
  | .panic text :: _ => .done (.error (.panicked text))

end FactoryStep

end ScriptHost
