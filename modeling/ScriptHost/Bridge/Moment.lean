import ScriptHost.Bridge.Caller
/-!
Runs of a bridge.

A `Moment` is a bridge and what its engine thread is in the middle of. A run is a list of `Move`s: the
thread does the next bit of its task, or somebody else does something meanwhile. `Bridge.tick` is the
case in which nobody moves before the task is done.
-/

namespace ScriptHost

/-- What the engine thread is in the middle of. -/
inductive Work (σ : Type) where
  | idle
  /-- this is left of the factory -/
  | building (rest : Conduct (Except Abort σ))
  /-- this is left of the engine's wrapping a command -/
  | wrapping (c : Command) (rest : Conduct (σ × Except Abort String))
  /-- this is left of the engine's evaluating its program -/
  | evaluating (c : Command) (rest : Conduct (σ × Except Abort Unit))

/-- The command that the engine has. -/
def Work.command? {σ : Type} : Work σ → Option Command
  | wrapping c _ | evaluating c _ => some c
  | _ => none

/-- A bridge in the course of a run. -/
structure Moment (σ : Type) where
  bridge : Bridge σ
  work : Work σ

/-- Something that happens to a bridge. -/
inductive Move (σ : Type) where
  /-- the engine thread begins its next task, or does one act of it, or ends it -/
  | advance
  /-- another thread does what an engine may do, too: it signals, invokes, drops a handle, shuts down -/
  | act (a : Act)
  /-- another thread invokes a source and begins to wait for its id -/
  | block (source : String)
  /-- the holder of a handle begins to wait for its id -/
  | hold (id : InvocationId)
  /-- a waiter looks for its outcome and takes it if it is there -/
  | poll (id : InvocationId)
  /-- a waiter gives up -/
  | expire (id : InvocationId) (ms : Nat)
  /-- the time in which the engine had to report is over -/
  | deadline
  /-- so many milliseconds pass -/
  | pass (ms : Nat)
  /-- so many ids are issued on other bridges -/
  | elsewhere (n : Nat)
  /-- the host changes what it shares with the engine, or time goes by on a clock of the engine's -/
  | share (f : σ → σ)

variable {σ : Type}

/-- What a move does to a bridge, the engine thread's own moves apart. -/
def Bridge.move (b : Bridge σ) : Move σ → Bridge σ
  | .advance => b
  | .act a => (b.perform a).2
  | .block source => (b.dispatch source true).2
  | .hold id => b.hold id
  | .poll id => (b.poll id).2
  | .expire id ms => (b.expire id ms).2
  | .deadline => b.deadline
  | .pass ms => b.pass ms
  | .elsewhere n => { b with number := b.number + n }
  | .share f => { b with engine := b.engine.map f }

namespace Moment

/-- The start of a run: the bridge's thread has just been started. -/
def start (config : Config) (number : Nat) : Moment σ := ⟨.fresh config number, .idle⟩

/-- The engine thread's next move. -/
def advance (e : Engine σ) (m : Moment σ) : Moment σ :=
  match m.work with
  | .idle =>
    match m.bridge.task e with
    | .wait => m
    | .step b => ⟨b, .idle⟩
    | .build b rest => ⟨b, .building rest⟩
    | .wrap b c rest => ⟨b, .wrapping c rest⟩
  | .building (.done r) => ⟨m.bridge.built r, .idle⟩
  | .building (.act a next) => ⟨(m.bridge.perform a).2, .building (next (m.bridge.perform a).1)⟩
  | .wrapping c (.done (s, .error a)) => ⟨m.bridge.returned c (s, .error a), .idle⟩
  | .wrapping c (.done (s, .ok program)) =>
    ⟨m.bridge.note (.wrapped c), .evaluating c (e.evaluate s c.id program)⟩
  | .wrapping c (.act a next) => ⟨(m.bridge.perform a).2, .wrapping c (next (m.bridge.perform a).1)⟩
  | .evaluating c (.done r) => ⟨m.bridge.returned c r, .idle⟩
  | .evaluating c (.act a next) => ⟨(m.bridge.perform a).2, .evaluating c (next (m.bridge.perform a).1)⟩

/-- One move. -/
def step (e : Engine σ) (m : Moment σ) : Move σ → Moment σ
  | .advance => m.advance e
  | v => { m with bridge := m.bridge.move v }

/-- The moment after a run. -/
def after (e : Engine σ) (m : Moment σ) (vs : List (Move σ)) : Moment σ := vs.foldl (step e) m

/-- The command whose turn the engine thread's next move is. -/
def turn? (m : Moment σ) : Option Command :=
  match m.work with
  | .idle => m.bridge.next?.map (·.1)
  | _ => none

end Moment

end ScriptHost
