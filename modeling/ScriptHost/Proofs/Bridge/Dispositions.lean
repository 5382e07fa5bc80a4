import ScriptHost.Proofs.Bridge.Opening
import ScriptHost.Proofs.Bridge.Signals
import ScriptHost.Proofs.Wire.Grammar
/-!
What posted texts do.

`Posted` lists what a text can do to a bridge, with the answer that goes with it. The answers of any two
cases differ, so that the answer alone tells what was done, and a text of which only a part makes sense does
nothing.
-/

namespace ScriptHost

open Bridge

variable {σ : Type} {b : Bridge σ} {raw : String} {s : Signal} {l : Lifecycle} {id : InvocationId} {o : Outcome}

namespace Bridge

/-- What a posted text answers and does. -/
inductive Posted (b : Bridge σ) (raw : String) : Disposition × Bridge σ → Prop
  | malformed {e : Json.ReadError} (h : Message.parse raw = .error e) : Posted b raw (.malformed, b)
  | unmatched {s : Signal} (h : Message.parse raw = .ok (.signal s)) (hp : s.id ∉ b.table.pending) :
      Posted b raw (.unmatched, b)
  | resolved {s : Signal} (h : Message.parse raw = .ok (.signal s)) (hp : s.id ∈ b.table.pending) :
      Posted b raw (.resolved, b.resolve s.id s.outcome)
  | ignored {l : Lifecycle} (h : Message.parse raw = .ok (.lifecycle l)) {r : Readiness} (hg : b.gate = .ready r) :
      Posted b raw (.lifecycle false, b)
  | opened {l : Lifecycle} (h : Message.parse raw = .ok (.lifecycle l)) (hg : b.gate = .initializing) :
      Posted b raw (.lifecycle true, { b with gate := .ready l.trigger }.note (.opened l.trigger))

theorem openGate_of_closed (hg : b.gate = .initializing) (r : Readiness) :
    b.openGate r = (true, { b with gate := .ready r }.note (.opened r)) := by
  obtain ⟨config, table, gate, phase, deferred, queue, cancelled, engine, journal, number⟩ := b
  cases hg
  rfl

/-- A posted text does nothing that is not listed. -/
theorem posted (b : Bridge σ) (raw : String) : Posted b raw (b.post raw) := by
  cases hm : Message.parse raw with
  | error e =>
    have did : b.post raw = (.malformed, b) := by simp only [post, hm]
    exact did ▸ .malformed hm
  | ok m =>
    cases m with
    | signal s =>
      have did : b.post raw = b.signal s := by simp only [post, hm]
      by_cases hp : s.id ∈ b.table.pending
      · have signalled : b.signal s = (.resolved, b.resolve s.id s.outcome) := by
          simp [signal, hp]
        exact did ▸ signalled ▸ .resolved hm hp
      · have signalled : b.signal s = (.unmatched, b) := by
          simp [signal, hp, resolve_of_not_pending hp]
        exact did ▸ signalled ▸ .unmatched hm hp
    | lifecycle l =>
      rw [post_lifecycle hm]
      cases hg : b.gate with
      | ready r => exact openGate_of_open hg l.trigger ▸ .ignored hm hg
      | initializing => exact openGate_of_closed hg l.trigger ▸ .opened hm hg

/-- Completing a pending id takes this one entry away and gives its waiter the outcome; it touches no other
entry, no other waiter, and nothing beside the table but the record of what was done. -/
structure Completes (id : InvocationId) (o : Outcome) (b b' : Bridge σ) : Prop where
  pending : b'.table.pending = b.table.pending.erase id
  gone : b.table.pending.Nodup → ¬ b'.table.isPending id
  waiter : b'.table.waiter? id = (b.table.waiter? id).map ({ · with outcome := some o })
  others : ∀ j, j ≠ id → b'.table.isPending j = b.table.isPending j ∧ b'.table.waiter? j = b.table.waiter? j
  resolutions : b'.resolutions = b.resolutions ++ [(id, o)]
  frame : b' = { b with table := b'.table, journal := b'.journal }

theorem completes (hp : id ∈ b.table.pending) (o : Outcome) : Completes id o b (b.resolve id o) where
  pending := pending_resolve b id o
  gone once still := by
    have left := (Table.mem_pending_resolve once).1 (Table.isPending_iff.1 still)
    exact left.2 rfl
  waiter := Table.waiter?_resolve.trans (if_pos ⟨rfl, hp⟩)
  others j hj := by
    exact ⟨Table.isPending_resolve_of_ne hj, Table.waiter?_resolve.trans (if_neg fun h => hj h.1)⟩
  resolutions := by simp [hp]
  frame := rfl

end Bridge

/-- What became of a posted text tells exactly what it did. It is malformed if it is not one whole document that
means a message, and unmatched if it is a signal for an id that is not pending; then it did nothing. A signal for a
pending id completes the id, with the signal's error if it has one, and with its value or null if not. A lifecycle
message tells whether it opened the gate: if not, it did nothing, and in no case anything to the table. -/
theorem dispositions_tell_what_was_done (b : Bridge σ) (raw : String) :
    let d := (b.post raw).1
    let later := (b.post raw).2
    (d = .malformed ↔ ∃ e, Message.parse raw = .error e) ∧
    (d = .malformed ↔ ¬ ∃ v m, Json.readWritten raw = .ok v ∧ Message.Means v m) ∧
    (d = .malformed → later = b) ∧
    (d = .unmatched ↔ ∃ s, Message.parse raw = .ok (.signal s) ∧ ¬ b.table.isPending s.id) ∧
    (d = .unmatched → later = b) ∧
    (d = .resolved ↔ ∃ s, Message.parse raw = .ok (.signal s) ∧ b.table.isPending s.id) ∧
    (∀ s, Message.parse raw = .ok (.signal s) → d = .resolved → ∃ o, Completes s.id o b later ∧
      (∀ message, s.error = some message → o = .error (.engine message)) ∧
      (s.error = none → o = .ok (s.value.getD .null))) ∧
    (∀ opened, d = .lifecycle opened ↔
      (∃ l, Message.parse raw = .ok (.lifecycle l)) ∧ (opened = true ↔ b.gate = .initializing)) ∧
    (∀ l, Message.parse raw = .ok (.lifecycle l) → later.table = b.table ∧
      (d = .lifecycle false → later = b) ∧
      (d = .lifecycle true → later.gate = .ready l.trigger ∧
        later = { b with gate := later.gate, journal := later.journal })) := by
  intro d later
  rw [← Message.unread_iff]
  have did : Posted b raw (d, later) := posted b raw
  clear_value d later
  cases did with
  | malformed h => simp [h]
  | unmatched h hp => simp [h, hp]
  | @resolved s h hp =>
    refine ⟨by simp [h], by simp [h], nofun, by simp [h, hp], nofun, by simp [h, hp], ?_, by simp [h], by simp [h]⟩
    rintro s' hs' -
    obtain rfl : s = s' := by simpa [h] using hs'
    refine ⟨s.outcome, completes hp s.outcome, fun message hm => ?_, fun hn => ?_⟩
    · simp only [Signal.outcome, hm]
    · simp only [Signal.outcome, hn]
  | ignored h hg => simp [h, hg]
  | @opened l h hg =>
    refine ⟨by simp [h], by simp [h], nofun, by simp [h], nofun, by simp [h], by simp [h], by simp [h, hg], ?_⟩
    intro l' hl'
    obtain rfl : l = l' := by simpa [h] using hl'
    exact ⟨rfl, nofun, fun _ => ⟨rfl, rfl⟩⟩

end ScriptHost
