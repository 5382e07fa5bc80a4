import ScriptHost.Bridge.Caller
import ScriptHost.Engine.Command
import ScriptHost.Engine.Factory
import ScriptHost.Engine.Plan
import ScriptHost.Engine.Script
/-!
Bridges of a session, each with its engine.

All engines of a session keep their state in a `Notebook`, so that bridges to different kinds of
engines stand in one list. What an engine writes down is handed to its host after every operation.
-/

namespace ScriptHost.Session

/-- What an engine of a session keeps, latest first. -/
structure Notebook where
  /-- ids that a command engine has evaluated -/
  seen : List InvocationId
  entries : List LogEntry
  /-- the clock of a script engine -/
  watch : Script.Stopwatch
  desk : Desk

/-- Which engine a bridge gets, and what its factory does. -/
inductive EngineKind where
  | command (build : List FactoryStep)
  | plan (build : List FactoryStep)
  | script (limits : Script.Limits) (api : Script.Api)

/-- The engine of a kind for the bridge with a number, at a session whose handles are on a desk. -/
def EngineKind.engine (host : Nat) (desk : Desk) : EngineKind → Engine Notebook
  | command build =>
    (Command.engine (FactoryStep.conduct build)).within ⟨[], [], {}, desk⟩ (·.seen) fun seen n => { n with seen }
  | plan build =>
    (Plan.engine ⟨host, desk, []⟩ (FactoryStep.conduct build)).within ⟨[], [], {}, desk⟩
      (fun n => ⟨host, n.desk, n.entries⟩) fun s n => { n with desk := s.desk, entries := s.entries }
  | script limits api =>
    (ScriptEngine.engine limits api).within ⟨[], [], {}, desk⟩ (fun n => ⟨n.entries, n.watch⟩)
      fun s n => { n with entries := s.entries, watch := s.watch }

/-- A bridge of a session. -/
structure Host where
  bridge : Bridge Notebook
  engine : Engine Notebook
  /-- when the bridge was started, in milliseconds of waiting -/
  born : Nat
  /-- ids evaluated and not asked for yet, oldest first -/
  reported : List InvocationId
  /-- log entries not asked for yet, oldest first -/
  log : List LogEntry
  /-- whether the host still holds the bridge -/
  held : Bool

/-- A bound on the steps in which a bridge settles. -/
def patience : Nat := 1000000

namespace Host

/-- The bridge with the engine's thread having done all it can. -/
def settle (h : Host) : Host := { h with bridge := h.bridge.settle h.engine patience }

/-- The time at which the gate opens by itself. -/
def deadline (h : Host) : Nat := h.born + h.bridge.config.bootstrapMs

/-- Whether the gate opens by itself at a time, or has done so. -/
def isDue (h : Host) (time : Nat) : Bool := h.deadline ≤ time && !h.bridge.gate.isReady

/-- Lends the desk and the number of the next id to the bridge. -/
def lend (h : Host) (desk : Desk) (number : Nat) : Host :=
  { h with bridge := { h.bridge with number, engine := h.bridge.engine.map fun n => { n with desk } } }

/-- Takes what the engine wrote down out of its notebook. -/
def collect (h : Host) : Host :=
  match h.bridge.engine with
  | none => h
  | some n =>
    { h with
      bridge := { h.bridge with engine := some { n with seen := [], entries := [] } }
      reported := h.reported ++ n.seen.reverse
      log := h.log ++ n.entries.reverse }

end Host

end ScriptHost.Session
