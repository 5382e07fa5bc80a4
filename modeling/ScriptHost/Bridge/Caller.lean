import ScriptHost.Bridge.Worker
import ScriptHost.Json.Target
/-!
Callers of a bridge.

A caller invokes a source and holds the id until it takes the outcome or gives up. Between two
operations of its callers a bridge settles; `patience` bounds the steps that this may take. A wait is
given `due`, whether the engine's time to report ends before the wait does.
-/

namespace ScriptHost

/-- Where a call is made. -/
inductive Caller where
  | engineThread
  | elsewhere
deriving DecidableEq, Repr

namespace Bridge

variable {σ : Type}

/-- Evaluates a source without waiting: the id to wait for. -/
def invoke (b : Bridge σ) (source : String) : InvocationId × Bridge σ := b.dispatch source

/-- What the waiter of an id finds: the outcome it was given, or that it can be given none any more;
nothing as long as the id is pending. -/
def look (b : Bridge σ) (id : InvocationId) : Option Outcome :=
  match (b.table.waiter? id).bind (·.outcome) with
  | some o => some o
  | none => if b.table.isPending id then none else some (.error .closed)

/-- Looks for the outcome of an id and takes it if it is there. -/
def poll (b : Bridge σ) (id : InvocationId) : Option Outcome × Bridge σ :=
  match b.look id with
  | some o => (some o, b.release id)
  | none => (none, b)

/-- The time for an id is over, which is given up if it is still pending. If it is not, the outcome that
its waiter was given counts. -/
def expire (b : Bridge σ) (id : InvocationId) (ms : Nat) : Outcome × Bridge σ :=
  let given := if b.table.isPending id then none else (b.table.waiter? id).bind (·.outcome)
  (given.getD (.error (.timeout id.text ms)), b.release id)

/-- Lets the time pass in which the engine had to report, if it ends during a wait. -/
def elapse (e : Engine σ) (patience : Nat) (due : Bool) (b : Bridge σ) : Bridge σ :=
  if due then settle e patience b.deadline else b

/-- Waits for the outcome of an id and gives up after so many milliseconds. -/
def waitTimeout (e : Engine σ) (patience : Nat) (due : Bool) (id : InvocationId) (ms : Nat) (b : Bridge σ) :
    Outcome × Bridge σ :=
  match (b.hold id).poll id with
  | (some o, b) => (o, b)
  | (none, b) =>
    match (elapse e patience due b).poll id with
    | (some o, b) => (o, b)
    | (none, b) => b.expire id ms

/-- What a blocked thread receives within its time: nothing, if its id stays pending. -/
def receive (e : Engine σ) (patience : Nat) (due : Bool) (id : InvocationId) (b : Bridge σ) :
    Option Outcome × Bridge σ :=
  match b.look id with
  | some o => (some o, b)
  | none =>
    let b := elapse e patience due b
    (b.look id, b)

/-- Blocks the thread for the outcome of an id and gives up after so many milliseconds. -/
def await (e : Engine σ) (patience : Nat) (due : Bool) (id : InvocationId) (ms : Nat) (b : Bridge σ) :
    Outcome × Bridge σ :=
  match b.receive e patience due id with
  | (some o, b) => (o, b.release id)
  | (none, b) => b.expire id ms

/-- Evaluates a source and blocks the thread for its outcome. The engine's own thread would wait for
itself, so it is refused before an id is taken. -/
def invokeBlocking (e : Engine σ) (patience : Nat) (due : Bool) (caller : Caller) (source : String) (ms : Nat)
    (b : Bridge σ) : Outcome × Bridge σ :=
  match caller with
  | .engineThread => (.error .affinityViolation, b)
  | .elsewhere =>
    let (id, b) := b.dispatch source true
    (settle e patience b).await e patience due id ms

/-- Evaluates sources one after another, without a pause. -/
def invokeEach (held : Bool) : List String → Bridge σ → List InvocationId × Bridge σ
  | [], b => ([], b)
  | s :: ss, b =>
    let (id, b) := b.dispatch s held
    let (ids, b) := invokeEach held ss b
    (id :: ids, b)

/-- Blocks one thread for each id, all at the same time. -/
def awaitEach (e : Engine σ) (patience : Nat) (due : Bool) (ms : Nat) :
    List InvocationId → Bridge σ → List Outcome × Bridge σ
  | [], b => ([], b)
  | id :: ids, b =>
    let (o, b) := b.await e patience due id ms
    let (os, b) := awaitEach e patience due ms ids b
    (o :: os, b)

/-- Fits the value of an outcome to a type. -/
def fit {α : Type} (decode : Json → Except String α) (o : Outcome) : Except Failure α :=
  match o with
  | .error f => .error f
  | .ok v =>
    match decode v with
    | .ok a => .ok a
    | .error message => .error (.typeMismatch message)

/-- Takes the typed outcome of an id if it is there; the id is given up either way. -/
def decode {α : Type} (read : Json → Except String α) (id : InvocationId) (b : Bridge σ) :
    Option (Except Failure α) × Bridge σ :=
  match b.poll id with
  | (some o, b) => (some (fit read o), b)
  | (none, b) => (none, b.drop id)

/-- Evaluates a source and waits for its typed outcome as long as the settings say. -/
def invokeAs {α : Type} (read : Json → Except String α) (e : Engine σ) (patience : Nat) (due : Bool)
    (source : String) (b : Bridge σ) : Except Failure α × Bridge σ :=
  let (id, b) := b.dispatch source true
  let (o, b) := (settle e patience b).waitTimeout e patience due id b.config.defaultTimeoutMs
  (fit read o, b)

/-- Evaluates a source and blocks the thread for its typed outcome. -/
def invokeBlockingAs {α : Type} (read : Json → Except String α) (e : Engine σ) (patience : Nat) (due : Bool)
    (caller : Caller) (source : String) (ms : Nat) (b : Bridge σ) : Except Failure α × Bridge σ :=
  let (o, b) := b.invokeBlocking e patience due caller source ms
  (fit read o, b)

/-- Waits until the gate is open and gives up after so many milliseconds. -/
def waitReady (e : Engine σ) (patience : Nat) (due : Bool) (ms : Nat) (b : Bridge σ) :
    Except Failure Readiness × Bridge σ :=
  match b.gate with
  | .ready r => (.ok r, b)
  | .initializing =>
    let b := elapse e patience due b
    match b.gate with
    | .ready r => (.ok r, b)
    | .initializing => (.error (.notReady ms), b)

/-- Stops the engine thread from outside and waits for its end. -/
def shutdown (e : Engine σ) (patience : Nat) (b : Bridge σ) : Bridge σ := settle e patience b.cancel

end Bridge

end ScriptHost
