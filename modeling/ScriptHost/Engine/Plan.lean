import ScriptHost.Engine.Desk
import ScriptHost.Engine.Log
import ScriptHost.Json.Target
import ScriptHost.Text.Blank
/-!
The plan engine.

Its source is a JSON list of actions, each an array of a name and its arguments. It can do to its
bridge whatever a bridge lets an engine do, in any order, and logs what came of each action.
-/

namespace ScriptHost.Plan

/-- One action of a plan. -/
inductive Action where
  /-- a signal for the plan's own id -/
  | signal (value : Option Json) (error : Option String)
  /-- a value for any id; `$self` in it stands for the own id -/
  | valueFor (id : String) (v : Json)
  /-- a posted text; `$self` in it stands for the own id -/
  | post (raw : String)
  | ready
  | initFailed (reason : String)
  | fail (f : Failure)
  | panic (text : String)
  | blocking (source : String) (ms : Nat)
  | blockingInteger (source : String) (ms : Nat)
  /-- an invocation whose handle goes on the desk -/
  | invoke (name source : String)
  /-- drops a handle from the desk -/
  | drop (name : String)
  | state
  | onEngineThread
  | shutdown

/-- The string in an argument; none if it is missing. -/
def textArg (args : List Json) (n : Nat) : String :=
  match args[n]? with
  | some (.str s) => s
  | _ => ""

/-- The number of milliseconds in an argument. -/
def msArg (args : List Json) (n : Nat) : Nat :=
  match args[n]? with
  | some (.int k) => k.toNat
  | _ => 5000

/-- Milliseconds that failures carry which a plan names. -/
def failureMs : Nat := 7

/-- The failure that two arguments name. -/
def failureArgs? (args : List Json) : Option Failure :=
  Failure.named? (textArg args 0) (textArg args 1) failureMs

/-- The action that an array stands for. -/
def Action.ofJson? : Json → Option Action
  | .arr (.str name :: args) =>
    match name with
    | "value" => some (.signal (some (args.headD .null)) none)
    | "error" => some (.signal none (some (textArg args 0)))
    | "none" => some (.signal none none)
    | "both" => some (.signal (some (args.headD .null)) (some (textArg args 1)))
    | "value_for" => some (.valueFor (textArg args 0) (args.getD 1 .null))
    | "post" => some (.post (textArg args 0))
    | "ready" => some .ready
    | "init_failed" => some (.initFailed (textArg args 0))
    | "fail" => (failureArgs? args).map .fail
    | "panic" => some (.panic (textArg args 0))
    | "blocking" => some (.blocking (textArg args 0) (msArg args 1))
    | "blocking_as_i64" => some (.blockingInteger (textArg args 0) (msArg args 1))
    | "invoke" => some (.invoke (textArg args 0) (textArg args 1))
    | "drop" => some (.drop (textArg args 0))
    | "state" => some .state
    | "on_engine_thread" => some .onEngineThread
    | "shutdown" => some .shutdown
    | _ => none
  | _ => none

/-- What a plan engine keeps: the number of its bridge, the desk, and its log, latest first. -/
structure State where
  host : Nat
  desk : Desk
  entries : List LogEntry

/-- The state with one more entry in the log. -/
def State.log (s : State) (e : LogEntry) : State := { s with entries := e :: s.entries }

/-- A text in which `$self` stands for an id. -/
def named (id : InvocationId) (s : String) : String := Text.replace "$self" id.text s

/-- The outcome of a typed call, as its caller shows it. -/
def integerOutcome (o : Outcome) : Outcome :=
  match o with
  | .error f => .error f
  | .ok v =>
    match Target.decode (.integer .i64) v with
    | .ok n => .ok n
    | .error message => .error (.typeMismatch message)

/-- Takes the actions of a plan in order, for an invocation. -/
def conduct (id : InvocationId) : List Action → State → Conduct (State × Except Abort Unit)
  | [], s => .done (s, .ok ())
  | .signal value error :: rest, s =>
    .act (.signal ⟨id, value, error⟩) fun d => conduct id rest (s.log (.disposition d))
  | .valueFor other v :: rest, s =>
    .act (.signal (.ofValue ⟨named id other⟩ v)) fun d => conduct id rest (s.log (.disposition d))
  | .post raw :: rest, s => .act (.post (named id raw)) fun d => conduct id rest (s.log (.disposition d))
  | .ready :: rest, s => .act .ready fun d => conduct id rest (s.log (.disposition d))
  | .initFailed reason :: rest, s =>
    .act (.initFailed reason) fun d => conduct id rest (s.log (.disposition d))
  | .fail f :: _, s => .done (s, .error (.failed f))
  | .panic text :: _, s => .done (s, .error (.panicked text))
  | .blocking source ms :: rest, s =>
    .act (.invokeBlocking source ms) fun (o : Outcome) => conduct id rest (s.log (.outcome o))
  | .blockingInteger source ms :: rest, s =>
    .act (.invokeBlocking source ms) fun o => conduct id rest (s.log (.outcome (integerOutcome o)))
  | .invoke name source :: rest, s =>
    .act (.invoke source) fun new =>
      let old := s.desk.find? name
      let s := { s with desk := s.desk.put name ⟨s.host, new⟩ }.log (.invoked new)
      match old with
      | some t =>
        if t.host = s.host then .act (.release t.id) fun _ => conduct id rest s else conduct id rest s
      | none => conduct id rest s
  | .drop name :: rest, s =>
    let old := s.desk.find? name
    let s := { s with desk := s.desk.remove name }.log (.flag old.isSome)
    match old with
    | some t =>
      if t.host = s.host then .act (.release t.id) fun _ => conduct id rest s else conduct id rest s
    | none => conduct id rest s
  | .state :: rest, s => .act .gate fun g => conduct id rest (s.log (.gate g))
  | .onEngineThread :: rest, s => .act .onEngineThread fun b => conduct id rest (s.log (.flag b))
  | .shutdown :: rest, s => .act .shutdown fun _ => conduct id rest (s.log .shutdown)

/-- The program of a source: its compact text, unless the first action tells wrapping to go wrong. -/
def program (source : String) : Except Abort String :=
  match Json.read source with
  | .error e => .error (.failed (.ofReadError e))
  | .ok v =>
    match v with
    | .arr (.arr (.str "wrap_fail" :: args) :: _) =>
      match failureArgs? args with
      | some f => .error (.failed f)
      | none => .ok v.text
    | .arr (.arr (.str "wrap_panic" :: _) :: _) => .error (.panicked "wrap")
    | _ => .ok v.text

/-- The actions of a program. -/
def actions (program : String) : List Action :=
  match Json.read program with
  | .ok (.arr vs) => vs.filterMap Action.ofJson?
  | _ => []

/-- The plan engine that starts from a state; `build` is what its factory does. -/
def engine (start : State) (build : Conduct (Except Abort Unit)) : Engine State where
  build := build.map fun r => r.map fun _ => start
  wrap s _ source := .done (s, program source)
  evaluate s id program := conduct id (actions program) s

end ScriptHost.Plan
