import ScriptHost.Proofs.Bridge.Ledger
/-!
Entries and waiters.

The table has an entry for each waiter that was given nothing yet, and for nobody else (`Agreement`). So
what a waiter finds, however it waits, was delivered to it, and nothing is made up for want of an entry.
-/

namespace ScriptHost

open Bridge

variable {σ : Type} {e : Engine σ} {b b' : Bridge σ} {m m' : Moment σ} {id : InvocationId} {o : Outcome}

/-! ## A wait is not ended by others -/

namespace Bridge

theorem held_acted (ha : b.Acted b') (h : b.table.isHeld id) : b'.table.isHeld id := by
  cases ha with
  | dispatch source =>
    have entered : (b.enter false).table.isHeld id := Table.isHeld_register h _ _
    rcases dispatch_cases b source false with ⟨o, e⟩ | ⟨-, -, e⟩ <;> rw [e]
    · exact Table.isHeld_resolve.trans entered
    · exact entered
  | resolve j o => exact Table.isHeld_resolve.trans h
  | drop j =>
    unfold Bridge.drop
    split
    · exact h
    · rename_i hj
      exact Table.isHeld_release h fun same => hj (same ▸ h)
  | same | openGate | cancel => exact h

/-- A thread that blocks for an id holds it from the start. -/
theorem held_dispatch (b : Bridge σ) (source : String) : (b.dispatch source true).2.table.isHeld b.nextId := by
  have entered : (b.enter true).table.isHeld b.nextId :=
    Table.isHeld_iff.2 ⟨⟨b.nextId, none, true⟩, List.mem_append_right _ (List.mem_singleton_self _), rfl, rfl⟩
  rcases dispatch_cases b source true with ⟨o, e⟩ | ⟨-, -, e⟩ <;> rw [e]
  · exact Table.isHeld_resolve.trans entered
  · exact entered

theorem held_deadline (h : b.table.isHeld id) : b.deadline.table.isHeld id := by
  unfold deadline
  split <;> exact h

end Bridge

theorem held_stride (hs : Stride e m m') (h : m.bridge.table.isHeld id) : m'.bridge.table.isHeld id := by
  have returned : ∀ (b : Bridge σ) (c : Command) (r : σ × Except Abort Unit), b.table.isHeld id →
      (b.returned c r).table.isHeld id := by
    rintro b c ⟨s, (a | u)⟩ hb
    · exact Table.isHeld_resolve.trans hb
    · exact hb
  cases hs with
  | rest | beginBuild | drain | park | defer | serve | endWrapping => exact h
  | actInBuild ha | actInWrapping ha | actInEvaluation ha => exact held_acted ha h
  | endBuild b r => rcases r with (f | text) | s <;> exact h
  | @close b =>
    exact close_keeps (I := fun b => b.table.isHeld id = true) (fun _ _ hb => Table.isHeld_resolve.trans hb) b h
  | @skip b b' c hn =>
    change b'.table.isHeld id
    exact next?_table hn ▸ h
  | @refuse b b' c hn =>
    have same : (b'.note (.taken c)).table.isHeld id := by
      change b'.table.isHeld id
      exact next?_table hn ▸ h
    exact Table.isHeld_resolve.trans same
  | @handOver b b' c hn =>
    change b'.table.isHeld id
    exact next?_table hn ▸ h
  | failWrapping b c s a => exact returned b c (s, .error a) h
  | endEvaluation b c r => exact returned b c r h

/-- The engine thread, left to itself, keeps the ledger, and ends nobody's wait. -/
theorem alone_keeps (e : Engine σ) (n : Nat) (hl : Ledger m.bridge) (hh : m.bridge.table.isHeld id) :
    Ledger (m.after e (Moment.alone n)).bridge ∧ (m.after e (Moment.alone n)).bridge.table.isHeld id := by
  induction n generalizing m with
  | zero => exact ⟨hl, hh⟩
  | succ n ih =>
    have stride := Moment.stride_advance e m
    exact ih (.stride stride hl) (held_stride stride hh)

namespace Ledger

theorem settle (h : Ledger b) (hh : b.table.isHeld id) (e : Engine σ) (patience : Nat) :
    Ledger (b.settle e patience) ∧ (b.settle e patience).table.isHeld id := by
  obtain ⟨n, hn⟩ := Moment.after_settle e patience b
  have kept := alone_keeps (m := ⟨b, .idle⟩) e n h hh
  rwa [hn] at kept

theorem elapse (h : Ledger b) (hh : b.table.isHeld id) (e : Engine σ) (patience : Nat) (due : Bool) :
    Ledger (b.elapse e patience due) ∧ (b.elapse e patience due).table.isHeld id := by
  unfold Bridge.elapse
  split
  · exact (h.outer (outer_deadline b)).settle (held_deadline hh) e patience
  · exact ⟨h, hh⟩

end Ledger

/-! ## What a wait comes to -/

theorem waiting_of_held (h : b.table.isHeld id) : id ∈ b.table.waiters.map (·.id) := by
  obtain ⟨w, hw, hi, -⟩ := Table.isHeld_iff.1 h
  exact List.mem_map.2 ⟨w, hw, hi⟩

theorem Answered.release {ms : Nat} (h : Answered b id ms o) (j : InvocationId) : Answered (b.release j) id ms o := by
  have same : (b.release j).resolutions = b.resolutions := by simp
  rwa [Answered, same]

namespace Ledger

theorem answered_look (h : Ledger b) (hw : id ∈ b.table.waiters.map (·.id)) (ms : Nat)
    (ho : b.look id = some o) : Answered b id ms o := by
  obtain ⟨w, mem, rfl⟩ := List.mem_map.1 hw
  exact .inl ((h.given_iff w mem o).1 (h.look_eq mem ▸ ho))

theorem answered_poll (h : Ledger b) (hw : id ∈ b.table.waiters.map (·.id)) (ms : Nat)
    (ho : b.poll id = (some o, b')) : Answered b' id ms o := by
  unfold poll at ho
  split at ho
  · rename_i o' hl
    obtain ⟨rfl, rfl⟩ : o' = o ∧ b.release id = b' := by simpa using ho
    exact (h.answered_look hw ms hl).release id
  · cases ho

theorem answered_expire (h : Ledger b) (hw : id ∈ b.table.waiters.map (·.id)) (ms : Nat) :
    Answered (b.expire id ms).2 id ms (b.expire id ms).1 := by
  obtain ⟨w, mem, rfl⟩ := List.mem_map.1 hw
  have answered : Answered b w.id ms (b.expire w.id ms).1 := (h.expire_iff mem ms).1 rfl
  exact answered.release w.id

theorem answered_await (h : Ledger b) (hh : b.table.isHeld id) (e : Engine σ) (patience : Nat) (due : Bool)
    (ms : Nat) : Answered (b.await e patience due id ms).2 id ms (b.await e patience due id ms).1 := by
  obtain ⟨later, held⟩ := h.elapse hh e patience due
  unfold await receive
  cases hl : b.look id with
  | some o => exact (h.answered_look (waiting_of_held hh) ms hl).release id
  | none =>
    cases hl' : (b.elapse e patience due).look id with
    | some o =>
      simp only [hl']
      exact (later.answered_look (waiting_of_held held) ms hl').release id
    | none =>
      simp only [hl']
      exact later.answered_expire (waiting_of_held held) ms

theorem answered_waitTimeout (h : Ledger b) (hw : id ∈ b.table.waiters.map (·.id)) (e : Engine σ)
    (patience : Nat) (due : Bool) (ms : Nat) :
    Answered (b.waitTimeout e patience due id ms).2 id ms (b.waitTimeout e patience due id ms).1 := by
  have poll_none : ∀ {b b' : Bridge σ}, b.poll id = (none, b') → b' = b := by
    intro b b' hp
    unfold poll at hp
    split at hp
    · cases hp
    · exact (Prod.mk.inj hp).2.symm
  -- While time passes the waiter is held, and nobody else can let it go.
  have began : Ledger (b.hold id) := h.hold id
  have held : (b.hold id).table.isHeld id := Table.isHeld_hold hw
  obtain ⟨later, still_held⟩ := began.elapse held e patience due
  unfold waitTimeout
  split
  · rename_i o b₁ hp
    exact began.answered_poll (waiting_of_held held) ms hp
  · rename_i b₁ hp
    rw [poll_none hp]
    split
    · rename_i o b₂ hp'
      exact later.answered_poll (waiting_of_held still_held) ms hp'
    · rename_i b₂ hp'
      rw [poll_none hp']
      exact later.answered_expire (waiting_of_held still_held) ms

theorem answered_invokeBlocking (h : Ledger b) (e : Engine σ) (patience : Nat) (due : Bool) (source : String)
    (ms : Nat) : Answered (b.invokeBlocking e patience due .elsewhere source ms).2 b.nextId ms
      (b.invokeBlocking e patience due .elsewhere source ms).1 := by
  obtain ⟨settled, still_held⟩ := (h.dispatch source true).settle (held_dispatch b source) e patience
  exact settled.answered_await still_held e patience due ms

/-! ## Entries and waiters -/

theorem keys (h : Ledger b) (id : InvocationId) :
    b.table.isPending id ↔ ∃ w ∈ b.table.waiters, w.id = id ∧ w.outcome = none := by
  rw [Table.isPending_iff]
  constructor
  · intro hp
    obtain ⟨w, hw, rfl⟩ := List.mem_map.1 (h.waiting_of_pending hp)
    exact ⟨w, hw, rfl, h.not_given_of_pending hw hp⟩
  · rintro ⟨w, hw, rfl, hn⟩
    exact h.pending_of_not_given hw hn

/-- There are as many entries as waiters without an outcome. -/
theorem count (h : Ledger b) : b.pending = b.table.waiters.countP (·.outcome.isNone) := by
  have waiting : ((b.table.waiters.filter (·.outcome.isNone)).map (·.id)).Perm b.table.pending := by
    refine (List.perm_ext_iff_of_nodup (h.waiters_nodup.sublist (List.filter_sublist.map _))
      h.pending_nodup).2 fun id => ?_
    rw [← Table.isPending_iff, h.keys id]
    simp [and_left_comm, and_comm]
  rw [List.countP_eq_length_filter, ← List.length_map (·.id), waiting.length_eq]
  rfl

end Ledger

/-- Entries and waiters agree. -/
structure Agreement (b : Bridge σ) : Prop where
  /-- The table has the ids of the waiters that were given nothing. -/
  keys : ∀ id, b.table.isPending id ↔ ∃ w ∈ b.table.waiters, w.id = id ∧ w.outcome = none
  /-- Each id that was issued has one waiter until the waiter lets it go. -/
  live : ∀ id, (∃ w ∈ b.table.waiters, w.id = id) ↔ id ∈ b.issued ∧ id ∉ b.released
  alone : (b.table.waiters.map (·.id)).Nodup
  given : ∀ w ∈ b.table.waiters, ∀ o, w.outcome = some o ↔ (w.id, o) ∈ b.resolutions
  count : b.pending = b.table.waiters.countP (·.outcome.isNone)
  /-- A handle is unresolved as long as its id is pending, and else has what its id was completed with. -/
  unresolved : ∀ w ∈ b.table.waiters, (b.poll w.id).1 = none ↔ b.table.isPending w.id
  polled : ∀ w ∈ b.table.waiters, ∀ o, (b.poll w.id).1 = some o ↔ (w.id, o) ∈ b.resolutions
  expired : ∀ w ∈ b.table.waiters, ∀ ms, Answered (b.expire w.id ms).2 w.id ms (b.expire w.id ms).1
  waited : ∀ w ∈ b.table.waiters, ∀ (e : Engine σ) patience due ms,
    Answered (b.waitTimeout e patience due w.id ms).2 w.id ms (b.waitTimeout e patience due w.id ms).1
  blocked : ∀ (e : Engine σ) patience due source ms,
    Answered (b.invokeBlocking e patience due .elsewhere source ms).2 b.nextId ms
      (b.invokeBlocking e patience due .elsewhere source ms).1

theorem Ledger.agreement (h : Ledger b) : Agreement b where
  keys := h.keys
  live id := by
    rw [← h.waiting_iff id, List.mem_map]
  alone := h.waiters_nodup
  given := h.given_iff
  count := h.count
  unresolved w hw := by
    rw [h.poll_eq hw, Table.isPending_iff]
    exact ⟨h.pending_of_not_given hw, h.not_given_of_pending hw⟩
  polled w hw o := h.poll_iff hw
  expired w hw ms := h.answered_expire (List.mem_map_of_mem hw) ms
  waited w hw e patience due ms := h.answered_waitTimeout (List.mem_map_of_mem hw) e patience due ms
  blocked e patience due source ms := h.answered_invokeBlocking e patience due source ms

end ScriptHost
