import ScriptHost.Engine.Factory
import ScriptHost.Engine.Log
import ScriptHost.Script.Report
/-!
The script engine.

Its programs are the sources themselves. Each evaluation runs its script and signals for its own invocation
once, or fails and signals nothing; a script has no means to signal. What the engine keeps from one evaluation
to the next is its log and its clock, which each evaluation starts anew.
-/

namespace ScriptHost.ScriptEngine

open Script

/-- What the engine keeps. -/
structure State where
  /-- the log, latest first -/
  entries : List LogEntry := []
  /-- the clock, which began to run when the engine was built -/
  watch : Stopwatch := {}

/-- So many steps go by while the engine does nothing. -/
def State.idle (s : State) (n : Nat) : State := { s with watch := s.watch.forward n }

/-- What a script printed, as a log entry. -/
def entry : Output → LogEntry
  | .printed s => .printed s
  | .debugged s p => .debugged s p.line p.column

/-- The program of a source: the source itself, unless it is too long. -/
def program (limits : Limits) (source : String) : Except Abort String :=
  if limits.sourceLength < source.utf8ByteSize then
    .error (.failed (.encoding s!"source is {source.utf8ByteSize} bytes, limit is {limits.sourceLength}"))
  else .ok source

/-- What the engine does about what came of a script. -/
def report (id : InvocationId) : Verdict → Conduct (Except Abort Unit)
  | .value v => .act (.signal (.ofValue id v)) fun _ => .done (.ok ())
  | .error message => .act (.signal (.ofError id message)) fun _ => .done (.ok ())
  | .refused f => .done (.error (.failed f))
  | .panicked text => .done (.error (.panicked text))

/-- Runs a program for an invocation and reports what came of it. -/
def evaluate (limits : Limits) (api : Api) (s : State) (id : InvocationId) (program : String) :
    Conduct (State × Except Abort Unit) :=
  let finish := Script.run limits api s.watch id.text program
  (report id finish.verdict).map fun r => (⟨(finish.output.map entry).reverse ++ s.entries, finish.watch⟩, r)

/-- The script engine; it reports readiness as soon as it is built. -/
def engine (limits : Limits) (api : Api) : Engine State where
  build := (FactoryStep.conduct [.ready]).map fun r => r.map fun _ => {}
  wrap s _ source := .done (s, program limits source)
  evaluate := evaluate limits api

end ScriptHost.ScriptEngine
