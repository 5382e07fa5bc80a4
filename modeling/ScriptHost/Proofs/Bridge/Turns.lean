import ScriptHost.Proofs.Bridge.Queues
/-!
The order of turns.

Commands get their turns in the order in which they were sent. Where a command's turn comes, the engine
gets it or it does not, and no other move gives the engine anything.
-/

namespace ScriptHost

open Bridge

variable {σ α : Type} {e : Engine σ} {b b' : Bridge σ} {m m' : Moment σ} {c d : Command}

/-- The engine gets a command whose turn it is if the command is pending, and the gate and the factory have
nothing against it. -/
def Gets (b : Bridge σ) (c : Command) : Prop :=
  c.id ∈ b.table.pending ∧ (∀ reason, b.gate ≠ .ready (.initFailed reason)) ∧ b.engine.isSome

namespace Moment

theorem task_of_next (hn : b.next? = some (c, b')) : b.task e = b'.turn e c := by
  rcases next?_cases hn with ⟨cs, hp, -, -⟩ | ⟨cs, hp, hc, -, -⟩
  · simp [task, hp, hn]
  · simp [task, hp, hc, hn]

theorem next_of_turn (ht : m.turn? = some c) : m.work = .idle ∧ ∃ b, m.bridge.next? = some (c, b) := by
  unfold turn? at ht
  split at ht
  · rename_i hw
    obtain ⟨⟨c', b⟩, hn, rfl⟩ := Option.map_eq_some_iff.1 ht
    exact ⟨hw, b, hn⟩
  · cases ht

/-- What the engine thread's next move says of turns and of what the engine gets. -/
theorem turn_of_stride (hs : Stride e m m') :
    m'.bridge.taken = m.bridge.taken ∧ m'.bridge.handed = m.bridge.handed ∨
      ∃ c, m.turn? = some c ∧ m'.bridge.taken = m.bridge.taken ++ [c] ∧
        (m'.bridge.handed = m.bridge.handed ∧ ¬ Gets m.bridge c ∨
          m'.bridge.handed = m.bridge.handed ++ [c] ∧ Gets m.bridge c) := by
  cases hs with
  | rest | beginBuild | drain | park | defer | serve => exact .inl ⟨rfl, rfl⟩
  | actInBuild ha | actInWrapping ha | actInEvaluation ha =>
    exact .inl ⟨record_outer Event.taken_ofWork ha.outer, record_outer Event.handed_ofWork ha.outer⟩
  | endBuild b r => exact .inl (by simp [record_built, Event.taken_ofWork, Event.handed_ofWork])
  | close => exact .inl ⟨record_close Event.taken_ofWork, record_close Event.handed_ofWork⟩
  | @skip b b' c hn hi =>
    refine .inr ⟨c, by simp [turn?, hn], by simp [record_next _ hn], .inl ⟨by simp [record_next _ hn], ?_⟩⟩
    exact fun g => hi g.1
  | @refuse b b' c hn hi f hf =>
    refine .inr ⟨c, by simp [turn?, hn], by simp [record_next _ hn], .inl ⟨by simp [record_next _ hn], ?_⟩⟩
    rintro ⟨-, hg, he⟩
    rcases hf with ⟨reason, hr⟩ | hf
    · exact hg reason hr
    · simp [hf] at he
  | @handOver b b' c hn hi hg s hs =>
    refine .inr ⟨c, by simp [turn?, hn], by simp [record_next _ hn], .inr ⟨by simp [record_next _ hn], ?_⟩⟩
    exact ⟨hi, hg, by simp [hs]⟩
  | failWrapping b c s a =>
    exact .inl (by simp [record_returned, Event.taken_ofWork, Event.handed_ofWork])
  | endWrapping b c s program => exact .inl ⟨record_note_aside rfl b, record_note_aside rfl b⟩
  | endEvaluation b c r => exact .inl (by simp [record_returned, Event.taken_ofWork, Event.handed_ofWork])

/-- Where a turn comes, the engine thread's next move takes it, and the engine gets the command or not. -/
theorem advance_of_turn (e : Engine σ) (ht : m.turn? = some c) :
    (m.advance e).bridge.taken = m.bridge.taken ++ [c] ∧
      ((m.advance e).bridge.handed = m.bridge.handed ∧ ¬ Gets m.bridge c ∨
        (m.advance e).bridge.handed = m.bridge.handed ++ [c] ∧ Gets m.bridge c) := by
  obtain ⟨b, work⟩ := m
  obtain ⟨rfl, b', hn⟩ := next_of_turn ht
  have taken : ((⟨b, .idle⟩ : Moment σ).advance e).bridge.taken = b.taken ++ [c] := by
    rw [advance_idle, task_of_next hn]
    simp only [turn]
    split
    · simp [Task.moment, record_next _ hn]
    · split <;> simp [Task.moment, record_next _ hn]
  rcases turn_of_stride (stride_advance e ⟨b, .idle⟩) with ⟨same, -⟩ | ⟨c', ht', -, handed⟩
  · simp [taken] at same
  · obtain rfl : c = c' := Option.some.inj (ht.symm.trans ht')
    exact ⟨taken, handed⟩

/-- The commands whose turn comes with a move. -/
theorem mem_taken_step (e : Engine σ) (m : Moment σ) (v : Move σ) :
    c ∈ (m.step e v).bridge.taken ↔ c ∈ m.bridge.taken ∨ v = .advance ∧ m.turn? = some c := by
  by_cases hv : v = .advance
  · subst hv
    change c ∈ (m.advance e).bridge.taken ↔ _
    constructor
    · intro hc
      rcases turn_of_stride (stride_advance e m) with ⟨same, -⟩ | ⟨c', ht, more, -⟩
      · exact .inl (same ▸ hc)
      · rw [more, List.mem_append, List.mem_singleton] at hc
        rcases hc with hc | rfl
        · exact .inl hc
        · exact .inr ⟨rfl, ht⟩
    · rintro (hc | ⟨-, ht⟩)
      · exact (record_after Event.taken? e m [.advance]).subset hc
      · exact (advance_of_turn e ht).1 ▸ List.mem_append_right _ (List.mem_singleton_self c)
  · have same : (m.step e v).bridge.taken = m.bridge.taken := by
      rw [step_of_ne e m hv]
      exact record_outer Event.taken_ofWork (outer_move m.bridge v)
    simp [same, hv]

/-- The commands that the engine gets with a move. -/
theorem mem_handed_step (e : Engine σ) (m : Moment σ) (v : Move σ) :
    c ∈ (m.step e v).bridge.handed ↔ c ∈ m.bridge.handed ∨ v = .advance ∧ m.turn? = some c ∧ Gets m.bridge c := by
  by_cases hv : v = .advance
  · subst hv
    change c ∈ (m.advance e).bridge.handed ↔ _
    constructor
    · intro hc
      rcases turn_of_stride (stride_advance e m) with ⟨-, same⟩ | ⟨c', ht, -, ⟨same, -⟩ | ⟨more, gets⟩⟩
      · exact .inl (same ▸ hc)
      · exact .inl (same ▸ hc)
      · rw [more, List.mem_append, List.mem_singleton] at hc
        rcases hc with hc | rfl
        · exact .inl hc
        · exact .inr ⟨rfl, ht, gets⟩
    · rintro (hc | ⟨-, ht, gets⟩)
      · exact (record_after Event.handed? e m [.advance]).subset hc
      · rcases (advance_of_turn e ht).2 with ⟨-, not⟩ | ⟨more, -⟩
        · exact absurd gets not
        · exact more ▸ List.mem_append_right _ (List.mem_singleton_self c)
  · have same : (m.step e v).bridge.handed = m.bridge.handed := by
      rw [step_of_ne e m hv]
      exact record_outer Event.handed_ofWork (outer_move m.bridge v)
    simp [same, hv]

/-- What a heading lists after a run was listed before, or came with one of the thread's moves. -/
theorem mem_record_after {f : Event → Option α} {P : Moment σ → Prop} {a : α}
    (one : ∀ m v, a ∈ (m.step e v).bridge.record f ↔ a ∈ m.bridge.record f ∨ v = .advance ∧ P m) (m : Moment σ)
    (vs : List (Move σ)) : a ∈ (m.after e vs).bridge.record f ↔
      a ∈ m.bridge.record f ∨ ∃ vs₁ vs₂, vs = vs₁ ++ .advance :: vs₂ ∧ P (m.after e vs₁) := by
  induction vs generalizing m with
  | nil => simp
  | cons v vs ih =>
    rw [after_cons, ih, one, or_assoc]
    refine or_congr_right ?_
    constructor
    · rintro (⟨rfl, hp⟩ | ⟨vs₁, vs₂, rfl, hp⟩)
      · exact ⟨[], vs, rfl, hp⟩
      · exact ⟨v :: vs₁, vs₂, rfl, hp⟩
    · rintro ⟨vs₁, vs₂, hv, hp⟩
      rcases List.cons_eq_append_iff.1 hv with ⟨rfl, hv⟩ | ⟨vs₁', rfl, rfl⟩
      · obtain ⟨rfl, -⟩ := List.cons.inj hv
        exact .inl ⟨rfl, hp⟩
      · exact .inr ⟨vs₁', vs₂, rfl, hp⟩

end Moment

/-! ## Order -/

/-- Of two members of a list without repetition, a part that begins it and has the second has the first
before it. -/
theorem before_of_prefix {l s : List Command} (hp : l <+: s) (hn : s.Nodup) (h : [d, c].Sublist s)
    (hc : c ∈ l) : [d, c].Sublist l := by
  obtain ⟨t, rfl⟩ := hp
  have not_behind : c ∉ t := fun ht => List.disjoint_of_nodup_append hn hc ht
  obtain ⟨l₁, l₂, split, h₁, h₂⟩ := List.sublist_append_iff.1 h
  rcases List.eq_nil_or_concat l₂ with rfl | ⟨l₃, a, rfl⟩
  · rw [split, List.append_nil]
    exact h₁
  · have last : a = c := by
      have := congrArg List.getLast? split
      simpa using this.symm
    exact absurd (h₂.subset (by simp [last])) not_behind

/-- Any part of a list without repetition has its members in the order of the list. -/
theorem before_of_sublist {l s : List Command} (hl : l.Sublist s) (hn : s.Nodup) (h : [d, c].Sublist s)
    (hd : d ∈ l) (hc : c ∈ l) : [d, c].Sublist l := by
  induction hl with
  | slnil => exact h
  | cons a hl ih =>
    obtain ⟨ha, hn⟩ := List.nodup_cons.1 hn
    cases h with
    | cons _ h => exact ih hn h hd hc
    | cons_cons _ h => exact absurd (hl.subset hd) ha
  | cons_cons a hl ih =>
    obtain ⟨ha, hn⟩ := List.nodup_cons.1 hn
    cases h with
    | cons _ h =>
      have hda : d ≠ a := fun e => ha (e ▸ h.subset (by simp))
      have hca : c ≠ a := fun e => ha (e ▸ h.subset (by simp))
      exact (ih hn h (List.mem_of_ne_of_mem hda hd) (List.mem_of_ne_of_mem hca hc)).cons a
    | cons_cons _ h =>
      have hca : c ≠ d := fun e => ha (e ▸ h.subset (by simp))
      exact (List.singleton_sublist.2 (List.mem_of_ne_of_mem hca hc)).cons_cons d

theorem Text.offsetFrom?_eq_none (ch : Char) (n : Nat) (cs : List Char) : offsetFrom? ch n cs = none ↔ ch ∉ cs := by
  induction cs generalizing n with
  | nil => simp [offsetFrom?]
  | cons a cs ih =>
    by_cases h : a = ch
    · simp [offsetFrom?, h]
    · simp [offsetFrom?, h, ih, Ne.symm h]

/-- What can cross the border to the engine has no NUL. -/
theorem Bridge.encodingFault?_eq_none (source : String) :
    encodingFault? source = none ↔ Char.ofNat 0 ∉ source.toList := by
  rw [encodingFault?, Option.map_eq_none_iff, Text.offset?, Text.offsetFrom?_eq_none]

namespace Queues

theorem sent_nodup (h : Queues b) (l : Ledger b) : b.sent.Nodup :=
  (l.issued_nodup.sublist h.ids).of_map _

/-- Commands held back get their turns before all that had none yet. -/
theorem held_back_first {later : Bridge σ} (h : Queues b) (h' : Queues later) (l' : Ledger later)
    (hs : b.sent <+: later.sent) (hd : d ∈ b.deferred) (hc : c ∈ later.taken) (ht : c ∉ b.taken)
    (hcd : c ∉ b.deferred) : [d, c].Sublist later.taken := by
  have running : b.phase.isRunning := by
    by_contra stopped
    have none_left := (h.emptied (Bool.eq_false_iff.2 stopped)).1
    simp [none_left] at hd
  obtain ⟨t, ht'⟩ := hs
  have order : b.taken ++ (b.deferred ++ (b.queue ++ t)) = later.sent := by
    rw [← ht', h.in_order running]
    simp
  -- What had its turn begins what was sent, so a command without a turn now comes behind those held back.
  have behind : c ∈ b.queue ++ t := by
    have hc' := h'.taken_first.subset hc
    rw [← order, List.mem_append, List.mem_append] at hc'
    exact (hc'.resolve_left ht).resolve_left hcd
  have in_turn : [d, c].Sublist later.sent := by
    rw [← order]
    have pair : ([d] ++ [c]).Sublist (b.deferred ++ (b.queue ++ t)) :=
      (List.singleton_sublist.2 hd).append (List.singleton_sublist.2 behind)
    exact pair.trans (List.sublist_append_right _ _)
  exact before_of_prefix h'.taken_first (h'.sent_nodup l') in_turn hc

end Queues

/-- In a turn the gate is open, so that it admits unless the engine did not come up. -/
theorem Readied.gets_iff (h : Readied m) (ht : m.turn? = some c) : Gets m.bridge c ↔
    m.bridge.table.isPending c.id ∧ m.bridge.gate.Admits ∧ .ok () ∈ m.bridge.factory := by
  obtain ⟨b, work⟩ := m
  obtain ⟨rfl, b', hn⟩ := Moment.next_of_turn ht
  rw [Table.isPending_iff, ← h.engine_iff]
  refine and_congr_right fun _ => and_congr_left fun _ => ⟨h.admits_of_turn hn, ?_⟩
  rintro ⟨r, hr, not_failed⟩ reason hg
  have : r = .initFailed reason := Gate.ready.inj (hr.symm.trans hg)
  exact not_failed reason this

namespace Moment

theorem handed_taken_after (e : Engine σ) (config : Config) (number : Nat) (vs : List (Move σ)) :
    ((start config number).after e vs).bridge.handed.Sublist ((start config number).after e vs).bridge.taken := by
  refine after_keeps (I := fun m => m.bridge.handed.Sublist m.bridge.taken) (fun m b ho h => ?_)
    (fun m m' hs h => ?_) ?_ vs
  · have handed : b.handed = m.bridge.handed := record_outer Event.handed_ofWork ho
    have taken : b.taken = m.bridge.taken := record_outer Event.taken_ofWork ho
    exact handed ▸ taken ▸ h
  · rcases turn_of_stride hs with ⟨taken, handed⟩ | ⟨c, -, taken, ⟨handed, -⟩ | ⟨handed, -⟩⟩
    · exact handed ▸ taken ▸ h
    · rw [handed, taken]
      exact h.trans (List.sublist_append_left _ _)
    · rw [handed, taken]
      exact h.append (List.Sublist.refl _)
  · exact .slnil

/-- An id that left the table without the engine having it is never the engine's. -/
theorem not_handed_after (e : Engine σ) {m : Moment σ} (l : Ledger m.bridge) {id : InvocationId}
    (he : id ∈ m.bridge.ended) (hh : id ∉ m.bridge.handed.map (·.id)) (ws : List (Move σ)) :
    id ∉ (m.after e ws).bridge.handed.map (·.id) := by
  have kept : Ledger (m.after e ws).bridge ∧ id ∈ (m.after e ws).bridge.ended ∧
      id ∉ (m.after e ws).bridge.handed.map (·.id) := by
    refine after_keeps (I := fun m => Ledger m.bridge ∧ id ∈ m.bridge.ended ∧ id ∉ m.bridge.handed.map (·.id))
      (fun m b ho h => ?_) (fun m m' hs h => ?_) ⟨l, he, hh⟩ ws
    · obtain ⟨l, he, hh⟩ := h
      have handed : b.handed = m.bridge.handed := record_outer Event.handed_ofWork ho
      exact ⟨l.outer ho, (record_mono (journal_outer ho)).subset he, handed ▸ hh⟩
    · obtain ⟨l, he, hh⟩ := h
      refine ⟨l.stride hs, (record_mono (journal_stride hs)).subset he, ?_⟩
      rcases turn_of_stride hs with ⟨-, handed⟩ | ⟨c, -, -, ⟨handed, -⟩ | ⟨handed, gets⟩⟩
      · exact handed ▸ hh
      · exact handed ▸ hh
      · rw [handed, List.map_append, List.mem_append]
        rintro (hc | hc)
        · exact hh hc
        · obtain rfl : id = c.id := List.mem_singleton.1 hc
          exact ((l.pending_iff c.id).1 gets.1).2 he
  exact kept.2.2

end Moment

/-- In every run the engine is given commands in the order in which they were sent, each at most once and
only behind an open gate: just those that are pending when their turn comes, if an engine came up. What was held back
has its turn before what was in the queue and before what was sent later. What was completed or given up before its
turn never reaches the engine, and neither does a source with a NUL. -/
theorem commands_are_handed_over_in_order (e : Engine σ) (config : Config) (number : Nat)
    (vs ws : List (Move σ)) :
    let run := (Moment.start config number : Moment σ).after e
    let b := (run vs).bridge
    let later := (run (vs ++ ws)).bridge
    (b.handed.map (·.id)).Sublist (b.sent.map (·.id)) ∧ (b.sent.map (·.id)).Nodup ∧
    (b.handed.map (·.id)).Nodup ∧ (b.gate = .initializing → b.handed = []) ∧
    (∀ c, c ∈ b.taken ↔ ∃ vs₁ vs₂, vs = vs₁ ++ .advance :: vs₂ ∧ (run vs₁).turn? = some c) ∧
    (∀ c, c ∈ b.handed ↔ ∃ vs₁ vs₂, vs = vs₁ ++ .advance :: vs₂ ∧ (run vs₁).turn? = some c ∧
      (run vs₁).bridge.table.isPending c.id ∧ (run vs₁).bridge.gate.Admits ∧
      .ok () ∈ (run vs₁).bridge.factory) ∧
    (b.phase.isRunning → b.sent = b.taken ++ b.deferred ++ b.queue) ∧ b.taken <+: b.sent ∧
    (∀ d ∈ b.deferred, ∀ c ∈ later.taken, c ∉ b.taken → c ∉ b.deferred → [d, c].Sublist later.taken ∧
      (d ∈ later.handed → c ∈ later.handed → [d, c].Sublist later.handed)) ∧
    (∀ id ∈ b.ended, id ∉ b.handed.map (·.id) → id ∉ later.handed.map (·.id)) ∧
    (∀ c ∈ b.handed, Char.ofNat 0 ∉ c.source.toList) := by
  intro run b later
  have run_append : run (vs ++ ws) = (run vs).after e ws := Moment.after_append e _ vs ws
  have ledger : ∀ us, Ledger (run us).bridge := ledger_after e config number
  obtain ⟨queues, ready⟩ : Queues b ∧ Readied (run vs) := queues_after e config number vs
  have handed_taken : b.handed.Sublist b.taken := Moment.handed_taken_after e config number vs
  have handed_sent : b.handed.Sublist b.sent := handed_taken.trans queues.taken_first.sublist
  have ids_nodup : (b.sent.map (·.id)).Nodup := (ledger vs).issued_nodup.sublist queues.ids
  refine ⟨handed_sent.map _, ids_nodup, ids_nodup.sublist (handed_sent.map _), fun hg => ?_, fun c => ?_,
    fun c => ?_, queues.in_order, queues.taken_first, fun d hd c hc ht hcd => ?_, fun id he hh => ?_,
    fun c hc => ?_⟩
  · refine List.eq_nil_iff_forall_not_mem.2 fun c hc => ?_
    obtain ⟨r, hr, -⟩ := (ready.handed c hc).1
    cases hg.symm.trans hr
  · exact (Moment.mem_record_after (Moment.mem_taken_step e) _ vs).trans (or_iff_right List.not_mem_nil)
  · refine ((Moment.mem_record_after (Moment.mem_handed_step e) _ vs).trans (or_iff_right List.not_mem_nil)).trans ?_
    refine exists₂_congr fun vs₁ vs₂ => and_congr_right fun _ => and_congr_right fun ht => ?_
    exact (queues_after e config number vs₁).2.gets_iff ht
  · have later_queues : Queues later := (queues_after e config number (vs ++ ws)).1
    have later_taken : later.handed.Sublist later.taken := Moment.handed_taken_after e config number (vs ++ ws)
    have sent_mono : b.sent <+: (run (vs ++ ws)).bridge.sent := by
      rw [run_append]
      exact Moment.record_after Event.sent? e (run vs) ws
    have later_nodup : later.taken.Nodup :=
      (later_queues.sent_nodup (ledger _)).sublist later_queues.taken_first.sublist
    have first := queues.held_back_first later_queues (ledger _) sent_mono hd hc ht hcd
    exact ⟨first, before_of_sublist later_taken later_nodup first⟩
  · have := Moment.not_handed_after e (ledger vs) he hh ws
    rwa [← run_append] at this
  · exact (encodingFault?_eq_none c.source).1 (queues.clean c (handed_sent.subset hc))

end ScriptHost
