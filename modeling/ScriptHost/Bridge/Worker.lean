import ScriptHost.Bridge.State
/-!
The engine thread.

`task` is what the thread does next: it builds the engine, holds commands back until the gate opens, runs
those held back and then those that come, one at a time, and closes down when it is asked to. `tick` does
a task to the end, and `settle` lets the thread run until it has nothing left to do.
-/

namespace ScriptHost

namespace Bridge

variable {σ α : Type}

/-- What an act of the engine does to its bridge. The engine runs on its own thread, where a blocking
call would wait for itself. -/
def perform (b : Bridge σ) : (a : Act) → a.Reply × Bridge σ
  | .signal s => b.signal s
  | .post raw => b.post raw
  | .ready => b.ready
  | .initFailed reason => b.initFailed reason
  | .invoke source => b.dispatch source
  | .invokeBlocking _ _ => (Except.error Failure.affinityViolation, b)
  | .release id => ((), b.drop id)
  | .gate => (b.gate, b)
  | .onEngineThread => (true, b)
  | .shutdown => ((), b.cancel)

/-- Performs the acts of a conduct in order. -/
def run (b : Bridge σ) : Conduct α → α × Bridge σ
  | .done a => (a, b)
  | .act a next =>
    let (r, b) := b.perform a
    b.run (next r)

/-- The thread panics and ends at once: what was sent to it is lost. -/
def crash (b : Bridge σ) : Bridge σ := { b with phase := .crashed, queue := [] }

/-- The thread begins to wait for the gate. It reckons first when the gate opens by itself, and panics if
that is beyond the times that can be told. -/
def bootstrap (b : Bridge σ) : Bridge σ :=
  { b with
    phase := if b.canWait then .bootstrapping else .crashed
    queue := if b.canWait then b.queue else [] }

theorem bootstrap_of_canWait {b : Bridge σ} (h : b.canWait) : b.bootstrap = { b with phase := .bootstrapping } := by
  simp [bootstrap, h]

theorem bootstrap_of_not_canWait {b : Bridge σ} (h : ¬ b.canWait) : b.bootstrap = b.crash := by
  simp [bootstrap, crash, h]

/-- A property that holds where the thread waits, and where it crashes, holds where it begins to wait. -/
theorem bootstrap_keeps {I : Bridge σ → Prop} {b : Bridge σ} (waits : I { b with phase := .bootstrapping })
    (crashes : I b.crash) : I b.bootstrap := by
  by_cases h : b.canWait
  · exact bootstrap_of_canWait h ▸ waits
  · exact bootstrap_of_not_canWait h ▸ crashes

/-- The factory is done. If it failed, the gate opens with its failure unless it is open already. If it
panicked, the thread panics with it. -/
def built (b : Bridge σ) : Except Abort σ → Bridge σ
  | .ok s => { b with engine := some s }.bootstrap.note (.built (.ok ()))
  | .error (.failed f) =>
    (b.openGate (.initFailed f.message)).2.bootstrap.note (.built (.error (.failed f)))
  | .error (.panicked text) => b.crash.note (.built (.error (.panicked text)))

/-- The engine is done with a command. If it failed or panicked, that is the command's outcome unless it
has one. -/
def returned (b : Bridge σ) (c : Command) (r : σ × Except Abort Unit) : Bridge σ :=
  let b := { b with engine := some r.1 }.note (.returned c r.2)
  match r.2 with
  | .ok () => b
  | .error a => b.resolve c.id (.error a.failure)

/-- The thread ends: what it was sent and did not run, and whatever else is pending, is closed. -/
def close (b : Bridge σ) : Bridge σ :=
  let sent := (b.deferred ++ b.queue).map Command.id
  ({ b with deferred := [], queue := [], phase := .stopped }.failEach .closed sent).failAll .closed

/-- Whether the thread ends rather than look at the gate: it was asked to, and has not just opened the gate
itself. -/
def quits (b : Bridge σ) : Bool := b.cancelled && b.gate != .ready .bootstrapTimeout

/-- The command whose turn it is, and the bridge without it. Commands held back run before those that
come, and a request to end is looked at only before the latter. -/
def next? (b : Bridge σ) : Option (Command × Bridge σ) :=
  match b.phase, b.deferred, b.queue with
  | .draining, c :: cs, _ => some (c, { b with deferred := cs })
  | .serving, _, c :: cs => if b.cancelled then none else some (c, { b with queue := cs })
  | _, _, _ => none

/-- What the thread does next. -/
inductive Task (σ : Type) where
  | wait
  /-- a step of its own, and the bridge after it -/
  | step (b : Bridge σ)
  /-- the factory runs -/
  | build (b : Bridge σ) (rest : Conduct (Except Abort σ))
  /-- the engine wraps a command -/
  | wrap (b : Bridge σ) (c : Command) (rest : Conduct (σ × Except Abort String))

/-- A command's turn: unless it was given up meanwhile, or there is no engine that could take it, the
engine gets it. -/
def turn (e : Engine σ) (c : Command) (b : Bridge σ) : Task σ :=
  let b := b.note (.taken c)
  if !b.table.isPending c.id then .step b
  else
    match b.gate, b.engine with
    | .ready (.initFailed reason), _ => .step (b.resolve c.id (.error (.initFailed reason)))
    | _, none => .step (b.resolve c.id (.error .unavailable))
    | _, some s => .wrap (b.note (.handedOver c)) c (e.wrap s c.id c.source)

/-- The thread's next task. Where it begins to wait for the gate, it looks at the gate only, and an open one lets it go
on though it was asked to end. Where it is parked, it looks first at whether it was asked to end: if the gate opened
meanwhile as well, what is held back is closed and not run, unless the thread opened the gate itself. -/
def task (e : Engine σ) (b : Bridge σ) : Task σ :=
  match b.phase with
  | .starting => .build b e.build
  | .bootstrapping => .step { b with phase := if b.gate.isReady then .draining else .parked }
  | .parked =>
    if b.quits then .step b.close
    else if b.gate.isReady then .step { b with phase := .draining }
    else
      match b.queue with
      | [] => .wait
      | c :: cs => .step { b with queue := cs, deferred := b.deferred ++ [c], phase := .bootstrapping }
  | .draining =>
    match b.next? with
    | some (c, b) => b.turn e c
    | none => .step { b with phase := .serving }
  | .serving =>
    if b.cancelled then .step b.close
    else
      match b.next? with
      | some (c, b) => b.turn e c
      | none => .wait
  | .stopped | .crashed => .wait

/-- The engine wraps a command and, if that goes well, evaluates the program. -/
def handOff (e : Engine σ) (b : Bridge σ) (c : Command) (rest : Conduct (σ × Except Abort String)) : Bridge σ :=
  match b.run rest with
  | ((s, .error a), b) => b.returned c (s, .error a)
  | ((s, .ok program), b) =>
    let (r, b) := (b.note (.wrapped c)).run (e.evaluate s c.id program)
    b.returned c r

/-- The thread does its next task to the end; `none` if it waits. -/
def tick (e : Engine σ) (b : Bridge σ) : Option (Bridge σ) :=
  match b.task e with
  | .wait => none
  | .step b => some b
  | .build b rest => let (r, b) := b.run rest; some (b.built r)
  | .wrap b c rest => some (b.handOff e c rest)

/-- Lets the thread run for at most so many steps, or until it waits. -/
def settle (e : Engine σ) : Nat → Bridge σ → Bridge σ
  | 0, b => b
  | n + 1, b =>
    match b.tick e with
    | none => b
    | some b => settle e n b

/-- Whether the thread waits. -/
def isSettled (e : Engine σ) (b : Bridge σ) : Bool := (b.tick e).isNone

/-- The time in which the engine had to report is over: the thread opens the gate if it still waits for
it. -/
def deadline (b : Bridge σ) : Bridge σ :=
  if b.phase = .parked ∧ !b.cancelled then (b.openGate .bootstrapTimeout).2 else b

end Bridge

end ScriptHost
