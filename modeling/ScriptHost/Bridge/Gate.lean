/-!
The readiness gate.

A gate opens once, at the first trigger, and keeps the reason for ever.
-/

namespace ScriptHost

/-- Why a gate opened. -/
inductive Readiness where
  /-- the engine reported that it is ready -/
  | signalled
  /-- the engine did not come up -/
  | initFailed (reason : String)
  /-- nothing was reported in time -/
  | bootstrapTimeout
deriving DecidableEq, Repr

/-- The state of a gate. -/
inductive Gate where
  | initializing
  | ready (r : Readiness)
deriving DecidableEq, Repr

namespace Gate

/-- Whether the gate is open. -/
def isReady : Gate → Bool
  | initializing => false
  | ready _ => true

/-- A trigger: the gate after it, and whether it opened. -/
def trigger (r : Readiness) : Gate → Gate × Bool
  | initializing => (ready r, true)
  | ready s => (ready s, false)

@[simp] theorem trigger_initializing (r : Readiness) : initializing.trigger r = (ready r, true) := rfl

@[simp] theorem trigger_ready (r s : Readiness) : (ready s).trigger r = (ready s, false) := rfl

end Gate

end ScriptHost
