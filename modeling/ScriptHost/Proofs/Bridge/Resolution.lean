import ScriptHost.Proofs.Bridge.Ledger
/-!
Each id is resolved at most once.

Signals, posted texts, failed hand-offs, given up waits and the end of the engine thread can all meet on
one id, in any order. Whichever comes first counts, and the others find nothing to do.
-/

namespace ScriptHost

open Bridge

variable {σ : Type} {b b' : Bridge σ} {id : InvocationId} {o : Outcome}

/-- What a resolution that succeeds does: the waiter of the id gets the outcome and no other waiter gets
anything, and the id and no other leaves the table. -/
structure Delivered (id : InvocationId) (o : Outcome) (b b' : Bridge σ) : Prop where
  waiting : id ∈ b.table.waiters.map (·.id)
  waiters : b'.table.waiters = b.table.waiters.map fun w => if w.id = id then { w with outcome := some o } else w
  pending : ∀ j, j ∈ b'.table.pending ↔ j ∈ b.table.pending ∧ j ≠ id
  resolutions : b'.resolutions = b.resolutions ++ [(id, o)]

namespace Bridge

theorem signal_resolved_iff (s : Signal) : (b.signal s).1 = .resolved ↔ b.table.isPending s.id := by
  unfold signal
  split <;> simp_all

/-- A posted text resolves something if it holds a signal for a pending id. -/
theorem post_resolved_iff (raw : String) :
    (b.post raw).1 = .resolved ↔ ∃ s, Message.parse raw = .ok (.signal s) ∧ b.table.isPending s.id := by
  unfold post
  split
  · rename_i s hs
    rw [signal_resolved_iff]
    exact ⟨fun hp => ⟨s, hs, hp⟩, fun ⟨s', hs', hp⟩ => by simp_all⟩
  all_goals simp_all [ready, initFailed]

end Bridge

namespace Ledger

theorem delivered (h : Ledger b) (hp : id ∈ b.table.pending) (o : Outcome) :
    Delivered id o b (b.resolve id o) where
  waiting := h.waiting_of_pending hp
  waiters := Table.waiters_resolve h.waiters_nodup hp
  pending j := by
    rw [pending_resolve, h.pending_nodup.mem_erase_iff, and_comm]
  resolutions := by simp [hp]

/-- A dispatch issues an id that was never issued before. -/
theorem issued_dispatch (h : Ledger b) (source : String) (held : Bool) :
    b.nextId ∉ b.issued ∧ (b.dispatch source held).2.issued = b.issued ++ [b.nextId] := by
  refine ⟨h.nextId_not_issued, ?_⟩
  rcases dispatch_cases b source held with ⟨o, e⟩ | ⟨-, -, e⟩ <;> rw [e] <;> simp

end Ledger

/-- In every run each id is entered once and leaves the table at most once; it is pending until then, and never
again. A resolution succeeds if the id is pending, and otherwise does nothing. It reaches the waiter of the id, and no
later one changes what the waiter observes; a timeout is observed only where there was none. -/
theorem ids_are_resolved_once (e : Engine σ) (config : Config) (number : Nat) (vs ws : List (Move σ)) :
    let b := ((Moment.start config number).after e vs).bridge
    let later := ((Moment.start config number).after e (vs ++ ws)).bridge
    b.issued.Nodup ∧ b.ended.Nodup ∧
    (∀ source held, (b.dispatch source held).1 ∉ b.issued ∧
      (b.dispatch source held).2.issued = b.issued ++ [(b.dispatch source held).1]) ∧
    (∀ id, b.table.isPending id ↔ id ∈ b.issued ∧ id ∉ b.ended) ∧
    (∀ id ∈ b.ended, ¬ later.table.isPending id) ∧
    (∀ id o, b.table.isPending id → Delivered id o b (b.resolve id o)) ∧
    (∀ id o, ¬ b.table.isPending id → b.resolve id o = b) ∧
    (∀ s, (b.signal s).1 = .resolved ↔ b.table.isPending s.id) ∧
    (∀ raw, (b.post raw).1 = .resolved ↔ ∃ s, Message.parse raw = .ok (.signal s) ∧ b.table.isPending s.id) ∧
    (∀ w ∈ b.table.waiters, ∀ o, (b.poll w.id).1 = some o ↔ (w.id, o) ∈ b.resolutions) ∧
    (∀ w ∈ b.table.waiters, ∀ ms o, (b.expire w.id ms).1 = o ↔ Answered b w.id ms o) ∧
    (∀ id o o', (id, o) ∈ b.resolutions → (id, o') ∈ later.resolutions → o' = o) := by
  intro b later
  have now : Ledger b := ledger_after e config number vs
  have then_ : Ledger later := ledger_after e config number (vs ++ ws)
  have grows : ∀ {α : Type} (f : Event → Option α), b.record f <+: later.record f := by
    intro α f
    have := Moment.record_after f e ((Moment.start config number).after e vs) ws
    rwa [← Moment.after_append] at this
  refine ⟨now.issued_nodup, now.ended_nodup, fun source held => now.issued_dispatch source held, fun id => ?_,
    fun id he hp => ?_, fun id o hp => now.delivered (by simpa using hp) o, fun id o hp => ?_,
    fun s => signal_resolved_iff s, fun raw => post_resolved_iff raw, fun w hw o => now.poll_iff hw,
    fun w hw ms o => now.expire_iff hw ms, fun id o o' ho ho' => ?_⟩
  · rw [Table.isPending_iff]
    exact now.pending_iff id
  · rw [Table.isPending_iff, then_.pending_iff] at hp
    exact hp.2 ((grows Event.ended?).subset he)
  · exact resolve_of_not_pending (by simpa using hp) o
  · exact then_.resolution_unique ho' ((grows Event.resolution?).subset ho)

end ScriptHost
