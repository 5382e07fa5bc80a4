import ScriptHost.Bridge.Config
import ScriptHost.Bridge.Engine
/-!
The state of a bridge, and what callers and engines do to it without running anything.

Ids are numbered across all bridges of a process: the number that the next id takes is lent to the
bridge that acts. `journal` records what happened to ids and to the gate, latest first.
-/

namespace ScriptHost

/-- Work for the engine thread. -/
structure Command where
  id : InvocationId
  source : String
deriving DecidableEq, Repr

/-- What the engine thread is doing. -/
inductive Phase where
  /-- the engine is not built yet -/
  | starting
  /-- commands are held back; the thread is about to look whether the gate is open -/
  | bootstrapping
  /-- commands are held back; the gate was closed when the thread last looked, and it waits -/
  | parked
  /-- the commands that were held back run -/
  | draining
  /-- commands run as they come -/
  | serving
  /-- the thread has ended -/
  | stopped
  /-- the thread was torn down before it took any command -/
  | crashed
deriving DecidableEq, Repr

/-- Whether the thread can still take commands. -/
def Phase.isRunning : Phase → Bool
  | stopped | crashed => false
  | _ => true

/-- Something that happened on a bridge. -/
inductive Event where
  | issued (id : InvocationId)
  | resolved (id : InvocationId) (o : Outcome)
  | discarded (id : InvocationId)
  /-- the waiter of an id took its outcome or gave up -/
  | released (id : InvocationId)
  /-- a command was sent to the engine thread -/
  | sent (c : Command)
  /-- a command's turn came -/
  | taken (c : Command)
  /-- the engine was given a command to wrap -/
  | handedOver (c : Command)
  /-- the engine wrapped a command and was given the program to evaluate -/
  | wrapped (c : Command)
  /-- what wrapping and evaluating a command came to -/
  | returned (c : Command) (r : Except Abort Unit)
  /-- what the factory came to -/
  | built (r : Except Abort Unit)
  | opened (r : Readiness)

/-- A bridge to an engine with states `σ`. -/
structure Bridge (σ : Type) where
  config : Config
  /-- the time, in milliseconds -/
  clock : Nat
  table : Table
  gate : Gate
  phase : Phase
  /-- commands held back, oldest first -/
  deferred : List Command
  /-- commands sent and not yet received, oldest first -/
  queue : List Command
  cancelled : Bool
  /-- the engine, if it could be built -/
  engine : Option σ
  journal : List Event
  /-- the number of the next id -/
  number : Nat

/-- What starting a bridge comes to. -/
inductive Launch (σ : Type) where
  | started (b : Bridge σ)
  | refused (v : Config.Violation)
  | panicked (text : String)

/-- The outcome that a signal carries: its error if it has one, or else its value or `null`. -/
def Signal.outcome (s : Signal) : Outcome :=
  match s.error with
  | some message => .error (.engine message)
  | none => .ok (s.value.getD .null)

namespace Bridge

variable {σ : Type}

/-- A bridge whose thread has just been started. -/
def fresh (config : Config) (number : Nat) : Bridge σ where
  config
  clock := 0
  table := .empty
  gate := .initializing
  phase := .starting
  deferred := []
  queue := []
  cancelled := false
  engine := none
  journal := []
  number

/-- Starts a bridge if its settings are valid and its thread can be named. -/
def spawn (config : Config) (number : Nat) : Launch σ :=
  match config.violation? with
  | some v => .refused v
  | none =>
    match config.threadPanic? with
    | some text => .panicked text
    | none => .started (fresh config number)

/-- Records an event. -/
def note (b : Bridge σ) (e : Event) : Bridge σ := { b with journal := e :: b.journal }

/-- Records an event if it happened. -/
def noteIf (b : Bridge σ) (happened : Bool) (e : Event) : Bridge σ :=
  { b with journal := if happened then e :: b.journal else b.journal }

/-- How many invocations wait for a result. -/
def pending (b : Bridge σ) : Nat := b.table.size

/-! ## Completing invocations -/

/-- Completes an id, if it is pending. -/
def resolve (b : Bridge σ) (id : InvocationId) (o : Outcome) : Bridge σ :=
  { b with table := b.table.resolve id o }.noteIf (b.table.isPending id) (.resolved id o)

/-- Completes ids one after another with the same failure. -/
def failEach (b : Bridge σ) (f : Failure) (ids : List InvocationId) : Bridge σ :=
  ids.foldl (fun b id => b.resolve id (.error f)) b

/-- Completes every pending id with the same failure. -/
def failAll (b : Bridge σ) (f : Failure) : Bridge σ := b.failEach f b.table.pending

/-! ## Messages from the engine -/

/-- Opens the gate, unless it is open. -/
def openGate (b : Bridge σ) (r : Readiness) : Bool × Bridge σ :=
  let (gate, opened) := b.gate.trigger r
  (opened, { b with gate }.noteIf opened (.opened r))

/-- A signal completes the invocation that it names. -/
def signal (b : Bridge σ) (s : Signal) : Disposition × Bridge σ :=
  (if b.table.isPending s.id then .resolved else .unmatched, b.resolve s.id s.outcome)

/-- The engine reports that it is ready. -/
def ready (b : Bridge σ) : Disposition × Bridge σ :=
  let (opened, b) := b.openGate .signalled
  (.lifecycle opened, b)

/-- The engine reports that it did not come up. -/
def initFailed (b : Bridge σ) (reason : String) : Disposition × Bridge σ :=
  let (opened, b) := b.openGate (.initFailed reason)
  (.lifecycle opened, b)

/-- A posted text has the effect of the message it holds, if it holds one. -/
def post (b : Bridge σ) (raw : String) : Disposition × Bridge σ :=
  match Message.parse raw with
  | .ok (.signal s) => b.signal s
  | .ok (.lifecycle .ready) => b.ready
  | .ok (.lifecycle (.initError reason)) => b.initFailed reason
  | .error _ => (.malformed, b)

/-! ## Sending commands -/

/-- Why a source cannot cross the border to the engine: it is handed over as text that ends at a NUL. -/
def encodingFault? (source : String) : Option Failure :=
  (Text.offset? (Char.ofNat 0) source).map fun offset =>
    .encoding s!"source contains a NUL byte at offset {offset}"

/-- The id that is issued next. -/
def nextId (b : Bridge σ) : InvocationId := .issue b.config.idStem b.number

/-- Enters the next id and its waiter. -/
def enter (b : Bridge σ) (held : Bool) : Bridge σ :=
  { b with number := b.number + 1, table := b.table.register b.nextId held }.note (.issued b.nextId)

/-- Puts a command into the thread's queue. -/
def push (b : Bridge σ) (c : Command) : Bridge σ := { b with queue := b.queue ++ [c] }.note (.sent c)

/-- Sends a command; what can be told at once to be impossible resolves at once. -/
def send (b : Bridge σ) (c : Command) : Bridge σ :=
  match encodingFault? c.source with
  | some f => b.resolve c.id (.error f)
  | none =>
    if b.phase.isRunning then b.push c else b.resolve c.id (.error .notRunning)

/-- Enters a fresh id and sends its command. A thread that blocks for the id holds it from the start. -/
def dispatch (b : Bridge σ) (source : String) (held : Bool := false) : InvocationId × Bridge σ :=
  (b.nextId, (b.enter held).send ⟨b.nextId, source⟩)

/-! ## Waiters -/

/-- The waiter of an id begins to wait. -/
def hold (b : Bridge σ) (id : InvocationId) : Bridge σ := { b with table := b.table.hold id }

/-- The waiter of an id, if there is one, lets it go, and the id is given up if it is still pending. -/
def release (b : Bridge σ) (id : InvocationId) : Bridge σ :=
  let waits := (b.table.waiter? id).isSome
  ({ b with table := b.table.release id }.noteIf (waits && b.table.isPending id) (.discarded id)).noteIf
    waits (.released id)

/-- A handle is dropped; one that is waited on is out of reach. -/
def drop (b : Bridge σ) (id : InvocationId) : Bridge σ := if b.table.isHeld id then b else b.release id

/-- Asks the engine thread to end. -/
def cancel (b : Bridge σ) : Bridge σ := { b with cancelled := true }

/-! ## Time -/

/-- The first time that cannot be told: seconds are counted in 63 bits. -/
def endOfTime : Nat := 0x8000000000000000 * 1000

/-- Whether it can be told when the gate opens by itself, if the thread begins to wait for it now. -/
def canWait (b : Bridge σ) : Bool := b.clock + b.config.bootstrapMs < endOfTime

/-- Time passes. -/
def pass (b : Bridge σ) (ms : Nat) : Bridge σ := { b with clock := b.clock + ms }

end Bridge

end ScriptHost
