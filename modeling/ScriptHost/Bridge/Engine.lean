import ScriptHost.Bridge.Gate
import ScriptHost.Bridge.Table
/-!
Engines.

An engine acts on its bridge while it runs: it signals, posts, and may even invoke and shut down. What
it does in one call is a `Conduct`, a tree of acts in which each next act may depend on the replies
to those before; the bridge performs it. So an engine needs no access to the bridge's state.
-/

namespace ScriptHost

/-- What became of an inbound message. -/
inductive Disposition where
  /-- a pending invocation was completed -/
  | resolved
  /-- no such invocation was pending -/
  | unmatched
  /-- the text was no message -/
  | malformed
  /-- a lifecycle message; `opened` tells whether it opened the gate -/
  | lifecycle (opened : Bool)
deriving DecidableEq, Repr

/-- Something that an engine does to its bridge. -/
inductive Act where
  | signal (s : Signal)
  | post (raw : String)
  | ready
  | initFailed (reason : String)
  | invoke (source : String)
  | invokeBlocking (source : String) (ms : Nat)
  | release (id : InvocationId)
  | gate
  | onEngineThread
  | shutdown

/-- What the engine gets back. -/
def Act.Reply : Act → Type
  | signal _ | post _ | ready | initFailed _ => Disposition
  | invoke _ => InvocationId
  | invokeBlocking _ _ => Outcome
  | release _ | shutdown => Unit
  | gate => Gate
  | onEngineThread => Bool

/-- What an engine does in one call, and what the call returns. -/
inductive Conduct (α : Type) where
  | done (a : α)
  | act (a : Act) (next : a.Reply → Conduct α)

namespace Conduct

variable {α β : Type}

/-- One conduct after another. -/
def bind : Conduct α → (α → Conduct β) → Conduct β
  | done a, f => f a
  | act a next, f => act a fun r => (next r).bind f

/-- The same acts, another result. -/
def map (f : α → β) (c : Conduct α) : Conduct β := c.bind fun a => done (f a)

end Conduct

/-- How an engine call may end other than well. -/
inductive Abort where
  | failed (f : Failure)
  | panicked (text : String)
deriving DecidableEq, Repr

/-- The failure that an aborted call means for its invocation. -/
def Abort.failure : Abort → Failure
  | failed f => f
  | panicked _ => .panicked

/-- An engine with states `σ`. `build` makes it on its thread; `wrap` turns a source into a program for
one invocation; `evaluate` runs a program. -/
structure Engine (σ : Type) where
  build : Conduct (Except Abort σ)
  wrap : σ → InvocationId → String → Conduct (σ × Except Abort String)
  evaluate : σ → InvocationId → String → Conduct (σ × Except Abort Unit)

namespace Engine

/-- The engine with its state kept inside a larger one. -/
def within {σ τ : Type} (e : Engine σ) (start : τ) (view : τ → σ) (put : σ → τ → τ) : Engine τ where
  build := e.build.map fun r => r.map fun s => put s start
  wrap t id source := (e.wrap (view t) id source).map fun r => (put r.1 t, r.2)
  evaluate t id program := (e.evaluate (view t) id program).map fun r => (put r.1 t, r.2)

end Engine

end ScriptHost
