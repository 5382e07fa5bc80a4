import ScriptHost.Bridge.Failure
import ScriptHost.Wire.Message
/-!
Who waits for what.

`pending` holds the ids whose completion is awaited; `waiters` are the callers that still hold the
receiving end, each with the outcome it was given, if any. Taking an id out of `pending` is what
resolves it, so the first resolution delivers and later ones find nothing.
-/

namespace ScriptHost

/-- A caller that awaits an invocation, and what it was given. -/
structure Waiter where
  id : InvocationId
  outcome : Option Outcome
  /-- whether the caller is in the middle of a wait, so that nobody else can let the id go -/
  held : Bool

/-- The ids that are pending and the callers that wait. -/
structure Table where
  pending : List InvocationId
  waiters : List Waiter

namespace Table

/-- Nobody waits. -/
def empty : Table := ⟨[], []⟩

/-- Whether an id is pending. -/
def isPending (t : Table) (id : InvocationId) : Bool := t.pending.contains id

@[simp] theorem isPending_iff {t : Table} {id : InvocationId} : t.isPending id = true ↔ id ∈ t.pending := by
  simp [isPending]

@[simp] theorem isPending_eq_false_iff {t : Table} {id : InvocationId} :
    t.isPending id = false ↔ id ∉ t.pending := by
  simp [isPending]

/-- How many invocations are pending. -/
def size (t : Table) : Nat := t.pending.length

/-- Enters a fresh id and its waiter. -/
def register (t : Table) (id : InvocationId) (held : Bool) : Table :=
  ⟨t.pending.erase id ++ [id], t.waiters ++ [⟨id, none, held⟩]⟩

/-- Gives an outcome to the waiter of an id. -/
def deliver (id : InvocationId) (o : Outcome) : List Waiter → List Waiter
  | [] => []
  | w :: ws => if w.id = id then { w with outcome := some o } :: ws else w :: deliver id o ws

/-- Completes an id, if it is pending. To take the id out and to give its waiter the outcome is one step here, however
the moves of several threads are interleaved: no caller finds the id gone and its outcome still to come. -/
def resolve (t : Table) (id : InvocationId) (o : Outcome) : Table :=
  if t.isPending id then ⟨t.pending.erase id, deliver id o t.waiters⟩ else t

/-- Gives up an id without an outcome. -/
def discard (t : Table) (id : InvocationId) : Table := { t with pending := t.pending.erase id }

/-- The waiter of an id. -/
def waiter? (t : Table) (id : InvocationId) : Option Waiter := t.waiters.find? fun w => w.id = id

/-- Whether the waiter of an id is in the middle of a wait. -/
def isHeld (t : Table) (id : InvocationId) : Bool := t.waiters.any fun w => w.id = id ∧ w.held

/-- The waiter of an id begins to wait. -/
def hold (t : Table) (id : InvocationId) : Table :=
  { t with waiters := t.waiters.map fun w => if w.id = id then { w with held := true } else w }

/-- Lets the waiter of an id go. -/
def dismiss (t : Table) (id : InvocationId) : Table :=
  { t with waiters := t.waiters.filter fun w => w.id ≠ id }

/-- The waiter of an id, if there is one, lets it go: the entry is given up with it. -/
def release (t : Table) (id : InvocationId) : Table :=
  if (t.waiter? id).isSome then (t.discard id).dismiss id else t

end Table

end ScriptHost
