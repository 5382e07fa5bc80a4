import ScriptHost.Proofs.Bridge.Run
import ScriptHost.Proofs.Bridge.Table
import ScriptHost.Proofs.Wire.Id
/-!
Ids, entries and waiters agree with the journal.

`Ledger` is the invariant of every run (`ledger_after`) that ties the table to what the journal says was
issued, completed, given up and let go.
-/

namespace ScriptHost

open Bridge

variable {σ : Type} {b b' : Bridge σ} {id : InvocationId} {o : Outcome}

namespace Bridge

/-! ## Resolving and letting go -/

theorem pending_resolve (b : Bridge σ) (id : InvocationId) (o : Outcome) :
    (b.resolve id o).table.pending = b.table.pending.erase id :=
  Table.pending_resolve

theorem resolve_of_not_pending (h : id ∉ b.table.pending) (o : Outcome) : b.resolve id o = b := by
  simp [resolve, noteIf, h, Table.resolve_of_not_pending h]

theorem release_of_not_waiting (h : id ∉ b.table.waiters.map (·.id)) : b.release id = b := by
  have hw : (b.table.waiter? id).isSome = false := by
    rw [← Bool.not_eq_true, Table.waiter?_isSome_iff]
    exact h
  simp [release, noteIf, Table.release, hw]

/-- The ids completed are among those that left the table, each as often. -/
theorem resolutions_sublist (b : Bridge σ) : (b.resolutions.map (·.1)).Sublist b.ended := by
  have among : ∀ es : List Event,
      ((es.filterMap Event.resolution?).map (·.1)).Sublist (es.filterMap Event.ended?) := by
    intro es
    induction es with
    | nil => exact .slnil
    | cons e es ih =>
      cases e with
      | resolved id o => exact ih.cons_cons id
      | discarded id => exact ih.cons id
      | _ => exact ih
  simp only [record, List.map_reverse]
  exact (among b.journal).reverse

theorem ended_of_resolution (h : (id, o) ∈ b.resolutions) : id ∈ b.ended :=
  (resolutions_sublist b).subset (List.mem_map_of_mem h)

end Bridge

/-- What the table and the journal of a bridge have to do with each other. -/
structure Ledger (b : Bridge σ) : Prop where
  numbered : ∀ id ∈ b.issued, ∃ k < b.number, id = .issue b.config.idStem k
  issued_nodup : b.issued.Nodup
  ended_nodup : b.ended.Nodup
  ended_issued : ∀ id ∈ b.ended, id ∈ b.issued
  released_issued : ∀ id ∈ b.released, id ∈ b.issued
  /-- What leaves the table was completed, or else its waiter let it go. -/
  ended_why : ∀ id ∈ b.ended, (∃ o, (id, o) ∈ b.resolutions) ∨ id ∈ b.released
  pending_nodup : b.table.pending.Nodup
  pending_iff : ∀ id, id ∈ b.table.pending ↔ id ∈ b.issued ∧ id ∉ b.ended
  pending_live : ∀ id ∈ b.table.pending, id ∉ b.released
  waiters_nodup : (b.table.waiters.map (·.id)).Nodup
  waiting_iff : ∀ id, id ∈ b.table.waiters.map (·.id) ↔ id ∈ b.issued ∧ id ∉ b.released
  given_iff : ∀ w ∈ b.table.waiters, ∀ o, w.outcome = some o ↔ (w.id, o) ∈ b.resolutions

/-- What a wait for an id comes to: the outcome that the id was completed with, or a timeout if there is
none. -/
def Answered (b : Bridge σ) (id : InvocationId) (ms : Nat) (o : Outcome) : Prop :=
  (id, o) ∈ b.resolutions ∨ o = .error (.timeout id.text ms) ∧ ∀ o', (id, o') ∉ b.resolutions

namespace Ledger

theorem nextId_not_issued (h : Ledger b) : b.nextId ∉ b.issued := by
  intro hi
  obtain ⟨k, hk, e⟩ := h.numbered _ hi
  have : b.number = k := InvocationId.issue_injective _ e
  omega

/-- An entry does not outlive its waiter. -/
theorem waiting_of_pending (h : Ledger b) (hp : id ∈ b.table.pending) : id ∈ b.table.waiters.map (·.id) :=
  (h.waiting_iff id).2 ⟨((h.pending_iff id).1 hp).1, h.pending_live id hp⟩

theorem pending_of_not_given (h : Ledger b) {w : Waiter} (hw : w ∈ b.table.waiters) (hn : w.outcome = none) :
    w.id ∈ b.table.pending := by
  obtain ⟨hi, hr⟩ := (h.waiting_iff w.id).1 (List.mem_map_of_mem hw)
  refine (h.pending_iff w.id).2 ⟨hi, fun he => ?_⟩
  rcases h.ended_why w.id he with ⟨o, ho⟩ | hr'
  · have := (h.given_iff w hw o).2 ho
    simp [hn] at this
  · exact hr hr'

theorem not_resolved_of_pending (h : Ledger b) (hp : id ∈ b.table.pending) : (id, o) ∉ b.resolutions :=
  fun hr => ((h.pending_iff id).1 hp).2 (ended_of_resolution hr)

theorem not_given_of_pending (h : Ledger b) {w : Waiter} (hw : w ∈ b.table.waiters)
    (hp : w.id ∈ b.table.pending) : w.outcome = none := by
  cases ho : w.outcome with
  | none => rfl
  | some o => exact absurd ((h.given_iff w hw o).1 ho) (h.not_resolved_of_pending hp)

theorem resolution_unique (h : Ledger b) {o o' : Outcome} (ho : (id, o) ∈ b.resolutions)
    (ho' : (id, o') ∈ b.resolutions) : o = o' := by
  have once : (b.resolutions.map (·.1)).Nodup := h.ended_nodup.sublist (resolutions_sublist b)
  exact (Prod.mk.inj (List.inj_on_of_nodup_map once ho ho' rfl)).2

/-! ## What a waiter finds -/

theorem look_eq (h : Ledger b) {w : Waiter} (hw : w ∈ b.table.waiters) : b.look w.id = w.outcome := by
  have found : b.table.waiter? w.id = some w := (Table.waiter?_eq_some_iff h.waiters_nodup).2 ⟨hw, rfl⟩
  cases ho : w.outcome with
  | some o => simp [look, found, ho]
  | none => simp [look, found, ho, h.pending_of_not_given hw ho]

theorem poll_eq (h : Ledger b) {w : Waiter} (hw : w ∈ b.table.waiters) : (b.poll w.id).1 = w.outcome := by
  rw [poll, h.look_eq hw]
  cases w.outcome <;> rfl

theorem expire_eq (h : Ledger b) {w : Waiter} (hw : w ∈ b.table.waiters) (ms : Nat) :
    (b.expire w.id ms).1 = w.outcome.getD (.error (.timeout w.id.text ms)) := by
  have found : b.table.waiter? w.id = some w := (Table.waiter?_eq_some_iff h.waiters_nodup).2 ⟨hw, rfl⟩
  by_cases hp : w.id ∈ b.table.pending
  · simp [expire, hp, h.not_given_of_pending hw hp]
  · simp [expire, hp, found]

theorem poll_iff (h : Ledger b) {w : Waiter} (hw : w ∈ b.table.waiters) :
    (b.poll w.id).1 = some o ↔ (w.id, o) ∈ b.resolutions := by
  rw [h.poll_eq hw, h.given_iff w hw]

/-- Who gives up gets the outcome if there is one, and a timeout otherwise. -/
theorem expire_iff (h : Ledger b) {w : Waiter} (hw : w ∈ b.table.waiters) (ms : Nat) :
    (b.expire w.id ms).1 = o ↔ Answered b w.id ms o := by
  rw [h.expire_eq hw]
  cases hg : w.outcome with
  | none =>
    have none_yet : ∀ o', (w.id, o') ∉ b.resolutions :=
      fun o' => h.not_resolved_of_pending (h.pending_of_not_given hw hg)
    simp [Answered, none_yet, eq_comm]
  | some given =>
    have resolved : (w.id, given) ∈ b.resolutions := (h.given_iff w hw given).1 hg
    constructor
    · rintro rfl
      exact .inl resolved
    · rintro (ho | ⟨-, none_yet⟩)
      · exact h.resolution_unique resolved ho
      · exact absurd resolved (none_yet given)

/-! ## Each operation keeps the ledger -/

/-- What touches neither the table nor the four headings keeps the ledger. -/
theorem frame (h : Ledger b) (hc : b'.config = b.config) (hn : b.number ≤ b'.number) (ht : b'.table = b.table)
    (hi : b'.issued = b.issued) (he : b'.ended = b.ended) (hr : b'.resolutions = b.resolutions)
    (hl : b'.released = b.released) : Ledger b' where
  numbered id hid := by
    obtain ⟨k, hk, e⟩ := h.numbered id (hi ▸ hid)
    exact ⟨k, by omega, hc ▸ e⟩
  issued_nodup := hi ▸ h.issued_nodup
  ended_nodup := he ▸ h.ended_nodup
  ended_issued id hid := hi ▸ h.ended_issued id (he ▸ hid)
  released_issued id hid := hi ▸ h.released_issued id (hl ▸ hid)
  ended_why id hid := hr ▸ hl ▸ h.ended_why id (he ▸ hid)
  pending_nodup := ht ▸ h.pending_nodup
  pending_iff id := by rw [ht, hi, he]; exact h.pending_iff id
  pending_live id hid := hl ▸ h.pending_live id (ht ▸ hid)
  waiters_nodup := ht ▸ h.waiters_nodup
  waiting_iff id := by rw [ht, hi, hl]; exact h.waiting_iff id
  given_iff w hw := hr ▸ h.given_iff w (ht ▸ hw)

theorem enter (h : Ledger b) (held : Bool) : Ledger (b.enter held) := by
  -- No heading has the new id yet, because the numbers of all ids in the journal are smaller.
  have new : b.nextId ∉ b.issued := h.nextId_not_issued
  have not_ended : b.nextId ∉ b.ended := fun he => new (h.ended_issued _ he)
  have not_released : b.nextId ∉ b.released := fun hr => new (h.released_issued _ hr)
  have not_pending : b.nextId ∉ b.table.pending := fun hp => new ((h.pending_iff _).1 hp).1
  have issued : (b.enter held).issued = b.issued ++ [b.nextId] := by simp
  have ended : (b.enter held).ended = b.ended := by simp
  have released : (b.enter held).released = b.released := by simp
  have resolutions : (b.enter held).resolutions = b.resolutions := by simp
  have pending : (b.enter held).table.pending = b.table.pending ++ [b.nextId] :=
    Table.pending_register not_pending held
  have waiters : (b.enter held).table.waiters = b.table.waiters ++ [⟨b.nextId, none, held⟩] := rfl
  constructor
  · intro id hid
    rw [issued, List.mem_append, List.mem_singleton] at hid
    rcases hid with hid | rfl
    · obtain ⟨k, hk, e⟩ := h.numbered id hid
      exact ⟨k, Nat.lt_succ_of_lt hk, e⟩
    · exact ⟨b.number, Nat.lt_succ_self _, rfl⟩
  · rw [issued]
    exact h.issued_nodup.append (List.nodup_singleton _) (List.disjoint_singleton.2 new)
  · rw [ended]
    exact h.ended_nodup
  · rw [ended, issued]
    exact fun id hid => List.mem_append_left _ (h.ended_issued id hid)
  · rw [released, issued]
    exact fun id hid => List.mem_append_left _ (h.released_issued id hid)
  · rw [ended, resolutions, released]
    exact h.ended_why
  · rw [pending]
    exact h.pending_nodup.append (List.nodup_singleton _) (List.disjoint_singleton.2 not_pending)
  · intro id
    rw [pending, issued, ended, List.mem_append, List.mem_append, List.mem_singleton, h.pending_iff]
    constructor
    · rintro (⟨hi, he⟩ | rfl)
      · exact ⟨.inl hi, he⟩
      · exact ⟨.inr rfl, not_ended⟩
    · rintro ⟨hi | rfl, he⟩
      · exact .inl ⟨hi, he⟩
      · exact .inr rfl
  · intro id hid
    rw [pending, List.mem_append, List.mem_singleton] at hid
    rw [released]
    rcases hid with hid | rfl
    · exact h.pending_live id hid
    · exact not_released
  · rw [waiters, List.map_append]
    refine h.waiters_nodup.append (List.nodup_singleton _) (List.disjoint_singleton.2 fun hw => ?_)
    exact new ((h.waiting_iff _).1 hw).1
  · intro id
    rw [waiters, issued, released, List.map_append, List.mem_append, List.mem_append, h.waiting_iff]
    simp only [List.map_cons, List.map_nil, List.mem_singleton]
    constructor
    · rintro (⟨hi, hr⟩ | rfl)
      · exact ⟨.inl hi, hr⟩
      · exact ⟨.inr rfl, not_released⟩
    · rintro ⟨hi | rfl, hr⟩
      · exact .inl ⟨hi, hr⟩
      · exact .inr rfl
  · intro w hw o
    rw [waiters, List.mem_append, List.mem_singleton] at hw
    rw [resolutions]
    rcases hw with hw | rfl
    · exact h.given_iff w hw o
    · simp only [reduceCtorEq, false_iff]
      exact fun hr => not_ended (ended_of_resolution hr)

theorem resolve (h : Ledger b) (id : InvocationId) (o : Outcome) : Ledger (b.resolve id o) := by
  -- The first resolution takes the entry away, so that any later one is the second case.
  by_cases hp : id ∈ b.table.pending
  · obtain ⟨hi, he⟩ := (h.pending_iff id).1 hp
    have ended : (b.resolve id o).ended = b.ended ++ [id] := by simp [hp]
    have issued : (b.resolve id o).issued = b.issued := by simp
    have released : (b.resolve id o).released = b.released := by simp
    have resolutions : (b.resolve id o).resolutions = b.resolutions ++ [(id, o)] := by simp [hp]
    have pending := pending_resolve b id o
    have waiters := Table.waiters_resolve (o := o) h.waiters_nodup hp
    have ids : (b.resolve id o).table.waiters.map (·.id) = b.table.waiters.map (·.id) := Table.ids_resolve
    constructor
    · rw [issued]
      exact h.numbered
    · rw [issued]
      exact h.issued_nodup
    · rw [ended]
      exact h.ended_nodup.append (List.nodup_singleton _) (List.disjoint_singleton.2 he)
    · intro j hj
      rw [ended, List.mem_append, List.mem_singleton] at hj
      rw [issued]
      rcases hj with hj | rfl
      · exact h.ended_issued j hj
      · exact hi
    · rw [released, issued]
      exact h.released_issued
    · intro j hj
      rw [ended, List.mem_append, List.mem_singleton] at hj
      rw [resolutions, released]
      rcases hj with hj | rfl
      · exact (h.ended_why j hj).imp_left fun ⟨o', ho⟩ => ⟨o', List.mem_append_left _ ho⟩
      · exact .inl ⟨o, List.mem_append_right _ (List.mem_singleton_self _)⟩
    · rw [pending]
      exact h.pending_nodup.erase id
    · intro j
      rw [pending, issued, ended, h.pending_nodup.mem_erase_iff, h.pending_iff, List.mem_append,
        List.mem_singleton]
      tauto
    · intro j hj
      rw [pending] at hj
      rw [released]
      exact h.pending_live j (List.mem_of_mem_erase hj)
    · rw [ids]
      exact h.waiters_nodup
    · intro j
      rw [ids, issued, released]
      exact h.waiting_iff j
    · intro w hw o'
      have hw' : w ∈ (b.table.resolve id o).waiters := hw
      rw [waiters, List.mem_map] at hw'
      obtain ⟨v, hv, rfl⟩ := hw'
      rw [resolutions, List.mem_append, List.mem_singleton]
      by_cases hvi : v.id = id
      · have none_yet : (id, o') ∉ b.resolutions := h.not_resolved_of_pending hp
        simp [hvi, none_yet, eq_comm]
      · rw [if_neg hvi, h.given_iff v hv]
        simp [hvi]
  · rw [resolve_of_not_pending hp]
    exact h

theorem release (h : Ledger b) (id : InvocationId) : Ledger (b.release id) := by
  -- The entry goes with the waiter if it is still there: only then the id ends here.
  by_cases hw : id ∈ b.table.waiters.map (·.id)
  · have waits : (b.table.waiter? id).isSome = true := Table.waiter?_isSome_iff.2 hw
    obtain ⟨hi, hr⟩ := (h.waiting_iff id).1 hw
    have issued : (b.release id).issued = b.issued := by simp
    have released : (b.release id).released = b.released ++ [id] := by simp [waits]
    have resolutions : (b.release id).resolutions = b.resolutions := by simp
    have ended : (b.release id).ended = b.ended ++ if b.table.isPending id then [id] else [] := by
      simp [waits]
    have pending : (b.release id).table.pending = b.table.pending.erase id :=
      Table.pending_release fun _ => hw
    have waiters : (b.release id).table.waiters = b.table.waiters.filter fun w => w.id ≠ id :=
      Table.waiters_release
    have mem_ended : ∀ j, j ∈ (b.release id).ended ↔ j ∈ b.ended ∨ j = id ∧ id ∈ b.table.pending := by
      intro j
      rw [ended, List.mem_append]
      by_cases hp : id ∈ b.table.pending <;> simp [hp]
    constructor
    · rw [issued]
      exact h.numbered
    · rw [issued]
      exact h.issued_nodup
    · rw [ended]
      by_cases hp : id ∈ b.table.pending
      · rw [if_pos (Table.isPending_iff.2 hp)]
        exact h.ended_nodup.append (List.nodup_singleton _)
          (List.disjoint_singleton.2 ((h.pending_iff id).1 hp).2)
      · rw [if_neg (by simpa using hp), List.append_nil]
        exact h.ended_nodup
    · intro j hj
      rw [issued]
      rcases (mem_ended j).1 hj with hj | ⟨rfl, -⟩
      · exact h.ended_issued j hj
      · exact hi
    · intro j hj
      rw [released, List.mem_append, List.mem_singleton] at hj
      rw [issued]
      rcases hj with hj | rfl
      · exact h.released_issued j hj
      · exact hi
    · intro j hj
      rw [resolutions, released, List.mem_append, List.mem_singleton]
      rcases (mem_ended j).1 hj with hj | ⟨rfl, -⟩
      · exact (h.ended_why j hj).imp_right .inl
      · exact .inr (.inr rfl)
    · rw [pending]
      exact h.pending_nodup.erase id
    · intro j
      rw [pending, issued, mem_ended, h.pending_nodup.mem_erase_iff, h.pending_iff, h.pending_iff]
      by_cases hj : j = id
      · subst hj
        tauto
      · tauto
    · intro j hj
      rw [pending, h.pending_nodup.mem_erase_iff] at hj
      rw [released, List.mem_append, List.mem_singleton]
      rintro (hj' | rfl)
      · exact h.pending_live j hj.2 hj'
      · exact hj.1 rfl
    · rw [waiters]
      exact h.waiters_nodup.sublist (List.filter_sublist.map _)
    · intro j
      rw [waiters, issued, released, List.mem_append, List.mem_singleton]
      have old := h.waiting_iff j
      simp only [List.mem_map, List.mem_filter, decide_eq_true_eq] at old ⊢
      constructor
      · rintro ⟨w, ⟨hw, hne⟩, rfl⟩
        obtain ⟨hi, hr⟩ := old.1 ⟨w, hw, rfl⟩
        exact ⟨hi, by tauto⟩
      · rintro ⟨hi, hr⟩
        obtain ⟨w, hw, rfl⟩ := old.2 ⟨hi, by tauto⟩
        exact ⟨w, ⟨hw, by tauto⟩, rfl⟩
    · intro w hw'
      rw [waiters, List.mem_filter] at hw'
      rw [resolutions]
      exact h.given_iff w hw'.1
  · rw [release_of_not_waiting hw]
    exact h

theorem hold (h : Ledger b) (id : InvocationId) : Ledger (b.hold id) where
  numbered := h.numbered
  issued_nodup := h.issued_nodup
  ended_nodup := h.ended_nodup
  ended_issued := h.ended_issued
  released_issued := h.released_issued
  ended_why := h.ended_why
  pending_nodup := h.pending_nodup
  pending_iff := h.pending_iff
  pending_live := h.pending_live
  waiters_nodup := by
    have ids : (b.hold id).table.waiters.map (·.id) = b.table.waiters.map (·.id) := Table.ids_hold
    exact ids ▸ h.waiters_nodup
  waiting_iff j := by
    have ids : (b.hold id).table.waiters.map (·.id) = b.table.waiters.map (·.id) := Table.ids_hold
    exact ids ▸ h.waiting_iff j
  given_iff w hw o := by
    obtain ⟨v, hv, rfl⟩ := List.mem_map.1 hw
    have given := h.given_iff v hv o
    by_cases hvi : v.id = id
    · rw [if_pos hvi]
      exact given
    · rw [if_neg hvi]
      exact given

theorem note (h : Ledger b) {e : Event} (hi : e.issued? = none) (he : e.ended? = none)
    (hr : e.resolution? = none) (hl : e.released? = none) : Ledger (b.note e) :=
  h.frame rfl (Nat.le_refl _) rfl (record_note_aside hi b) (record_note_aside he b) (record_note_aside hr b)
    (record_note_aside hl b)

theorem openGate (h : Ledger b) (r : Readiness) : Ledger (b.openGate r).2 :=
  h.frame rfl (Nat.le_refl _) rfl (by simp) (by simp) (by simp) (by simp)

theorem dispatch (h : Ledger b) (source : String) (held : Bool) : Ledger (b.dispatch source held).2 := by
  rcases dispatch_cases b source held with ⟨o, e⟩ | ⟨-, -, e⟩ <;> rw [e]
  · exact (h.enter held).resolve _ o
  · exact (h.enter held).frame rfl (Nat.le_refl _) rfl (by simp) (by simp) (by simp) (by simp)

theorem next (h : Ledger b) {c : Command} (hn : b.next? = some (c, b')) : Ledger b' := by
  rw [next?_eq hn]
  exact h.frame rfl (Nat.le_refl _) rfl rfl rfl rfl rfl

theorem built (h : Ledger b) (r : Except Abort σ) : Ledger (b.built r) := by
  rcases r with (f | text) | s
  · have opened := h.openGate (.initFailed f.message)
    have waits : Ledger (b.openGate (.initFailed f.message)).2.bootstrap :=
      opened.frame rfl (Nat.le_refl _) rfl rfl rfl rfl rfl
    exact waits.note rfl rfl rfl rfl
  · have crashed : Ledger b.crash := h.frame rfl (Nat.le_refl _) rfl rfl rfl rfl rfl
    exact crashed.note rfl rfl rfl rfl
  · have waits : Ledger { b with engine := some s }.bootstrap := h.frame rfl (Nat.le_refl _) rfl rfl rfl rfl rfl
    exact waits.note rfl rfl rfl rfl

theorem returned (h : Ledger b) (c : Command) (r : σ × Except Abort Unit) : Ledger (b.returned c r) := by
  have phased : Ledger { b with engine := some r.1 } := h.frame rfl (Nat.le_refl _) rfl rfl rfl rfl rfl
  have done := phased.note (e := .returned c r.2) rfl rfl rfl rfl
  obtain ⟨s, (a | u)⟩ := r
  · exact done.resolve _ _
  · exact done

theorem outer (h : Ledger b) (ho : b.Outer b') : Ledger b' := by
  cases ho with
  | same => exact h
  | dispatch source held => exact h.dispatch source held
  | resolve id o => exact h.resolve id o
  | release id => exact h.release id
  | hold id => exact h.hold id
  | openGate r => exact h.openGate r
  | cancel => exact h.frame rfl (Nat.le_refl _) rfl rfl rfl rfl rfl
  | pass ms => exact h.frame rfl (Nat.le_refl _) rfl rfl rfl rfl rfl
  | elsewhere n => exact h.frame rfl (Nat.le_add_right _ _) rfl rfl rfl rfl rfl
  | share f => exact h.frame rfl (Nat.le_refl _) rfl rfl rfl rfl rfl

theorem close (h : Ledger b) : Ledger b.close :=
  close_keeps (fun _ id h => h.resolve id _) b (h.frame rfl (Nat.le_refl _) rfl rfl rfl rfl rfl)

theorem stride {e : Engine σ} {m m' : Moment σ} (hs : Stride e m m') (h : Ledger m.bridge) :
    Ledger m'.bridge := by
  cases hs with
  | rest | beginBuild => exact h
  | actInBuild ha | actInWrapping ha | actInEvaluation ha => exact h.outer ha.outer
  | endBuild b r => exact h.built r
  | drain | park | defer | serve => exact h.frame rfl (Nat.le_refl _) rfl rfl rfl rfl rfl
  | close => exact h.close
  | skip hn => exact (h.next hn).note rfl rfl rfl rfl
  | refuse hn _ f => exact ((h.next hn).note rfl rfl rfl rfl).resolve _ _
  | handOver hn => exact ((h.next hn).note rfl rfl rfl rfl).note rfl rfl rfl rfl
  | failWrapping b c s a => exact returned (b := b) h c (s, .error a)
  | endWrapping b => exact note (b := b) h rfl rfl rfl rfl
  | endEvaluation b c r => exact returned (b := b) h c r

theorem fresh (config : Config) (number : Nat) : Ledger (.fresh config number : Bridge σ) := by
  constructor <;> simp [Bridge.fresh, record, Table.empty]

end Ledger

/-- In every run the table agrees with the journal. -/
theorem ledger_after (e : Engine σ) (config : Config) (number : Nat) (vs : List (Move σ)) :
    Ledger ((Moment.start config number).after e vs).bridge :=
  Moment.after_keeps (I := fun m => Ledger m.bridge) (fun _ _ ho h => h.outer ho) (fun _ _ hs h => .stride hs h)
    (.fresh config number) vs

end ScriptHost
