import ScriptHost.Proofs.Bridge.Turns
/-!
Who has an invocation.

While the engine thread runs, each pending id has a command that somebody has: it is held back, in the
queue, with the engine, or the engine took it well (`Custody`). So where the thread has nothing left to do,
what is pending waits for the engine only.
-/

namespace ScriptHost

open Bridge

variable {σ : Type} {e : Engine σ} {b b' : Bridge σ} {m m' : Moment σ} {c : Command} {id : InvocationId}

/-- Whether somebody has a command: it is to come, the engine is at it, or the engine took it well. -/
def Moment.Has (m : Moment σ) (c : Command) : Prop :=
  c ∈ m.bridge.deferred ∨ c ∈ m.bridge.queue ∨ m.work.command? = some c ∨
    c ∈ m.bridge.wrapped ∧ c ∈ m.bridge.accepted

/-- Nothing pending is out of hand as long as the thread runs. -/
structure Custody (m : Moment σ) : Prop where
  kept : m.bridge.phase.isRunning → ∀ id ∈ m.bridge.table.pending, ∃ c, c.id = id ∧ m.Has c
  wrapped : ∀ c rest, m.work = .evaluating c rest → c ∈ m.bridge.wrapped
  handed : ∀ c, m.work.command? = some c → c ∈ m.bridge.handed
  wrapped_handed : ∀ c ∈ m.bridge.wrapped, c ∈ m.bridge.handed

namespace Bridge

/-- What becomes pending from outside is in the queue. -/
theorem pending_outer (l : Ledger b) (ho : b.Outer b') (hp : id ∈ b'.table.pending) :
    id ∈ b.table.pending ∨ ∃ c ∈ b'.queue, c.id = id := by
  have resolved : ∀ {b : Bridge σ} {j : InvocationId} {o : Outcome}, id ∈ (b.resolve j o).table.pending →
      id ∈ b.table.pending := by
    intro b j o h
    rw [pending_resolve] at h
    exact List.mem_of_mem_erase h
  cases ho with
  | dispatch source held =>
    have fresh : b.nextId ∉ b.table.pending := fun h => l.nextId_not_issued ((l.pending_iff _).1 h).1
    have entered : (b.enter held).table.pending = b.table.pending ++ [b.nextId] :=
      Table.pending_register fresh held
    rcases dispatch_cases b source held with ⟨o, e⟩ | ⟨-, -, e⟩
    · rw [e] at hp
      have left : ((b.enter held).resolve b.nextId o).table.pending = b.table.pending := by
        rw [pending_resolve, entered, List.erase_append_right _ fresh]
        simp
      exact .inl (left ▸ hp)
    · rw [e] at hp ⊢
      have pushed : id ∈ b.table.pending ++ [b.nextId] := entered ▸ hp
      rcases List.mem_append.1 pushed with old | new
      · exact .inl old
      · refine .inr ⟨⟨b.nextId, source⟩, List.mem_append_right _ (List.mem_singleton_self _), ?_⟩
        exact (List.mem_singleton.1 new).symm
  | resolve j o => exact .inl (resolved hp)
  | release j =>
    have left : (b.release j).table.pending = b.table.pending.erase j := Table.pending_release l.waiting_of_pending
    exact .inl (List.mem_of_mem_erase (left ▸ hp))
  | same | hold | openGate | cancel | pass | elsewhere | share => exact .inl hp

theorem queue_outer (ho : b.Outer b') : b.queue ⊆ b'.queue := by
  obtain ⟨-, -, ⟨-, hq, -⟩ | ⟨source, -, -, -, -, hq⟩⟩ := queues_outer ho
  · exact hq ▸ List.Subset.refl _
  · exact hq ▸ List.subset_append_left _ _

end Bridge

/-- Who has a command still has it where nothing is taken away. -/
theorem Moment.Has.mono (h : m.Has c) (hd : m.bridge.deferred ⊆ m'.bridge.deferred)
    (hq : m.bridge.queue ⊆ m'.bridge.queue) (hc : m.work.command? = some c → m'.Has c)
    (hw : m.bridge.wrapped ⊆ m'.bridge.wrapped) (ha : m.bridge.accepted ⊆ m'.bridge.accepted) : m'.Has c := by
  rcases h with h | h | h | h
  · exact .inl (hd h)
  · exact .inr (.inl (hq h))
  · exact hc h
  · exact .inr (.inr (.inr ⟨hw h.1, ha h.2⟩))

namespace Custody

theorem outer (h : Custody m) (l : Ledger m.bridge) (ho : m.bridge.Outer b) {w : Work σ}
    (hw : w.command? = m.work.command?)
    (he : ∀ c rest, w = .evaluating c rest → ∃ rest, m.work = .evaluating c rest) : Custody ⟨b, w⟩ := by
  have wrapped : b.wrapped = m.bridge.wrapped := record_outer Event.wrapped_ofWork ho
  have accepted : b.accepted = m.bridge.accepted := record_outer Event.accepted_ofWork ho
  have handed : b.handed = m.bridge.handed := record_outer Event.handed_ofWork ho
  obtain ⟨phase, deferred, -⟩ := queues_outer ho
  constructor
  · intro hr id hid
    rcases pending_outer l ho hid with old | ⟨c, hc, hi⟩
    · obtain ⟨c, hi, has⟩ := h.kept (phase ▸ hr) id old
      exact ⟨c, hi, has.mono (deferred ▸ List.Subset.refl _) (queue_outer ho)
        (fun hc => .inr (.inr (.inl (hw.trans hc)))) (wrapped ▸ List.Subset.refl _) (accepted ▸ List.Subset.refl _)⟩
    · exact ⟨c, hi, .inr (.inl hc)⟩
  · intro c rest hr
    obtain ⟨rest', hr'⟩ := he c rest hr
    exact wrapped ▸ h.wrapped c rest' hr'
  · intro c hc
    exact handed ▸ h.handed c (hw ▸ hc)
  · intro c hc
    exact handed ▸ h.wrapped_handed c (wrapped ▸ hc)

theorem built (h : Custody ⟨b, .idle⟩) (hp : b.phase = .starting) (r : Except Abort σ) :
    Custody ⟨b.built r, .idle⟩ := by
  have wrapped : (b.built r).wrapped = b.wrapped := by simp [record_built Event.wrapped_ofWork]
  have accepted : (b.built r).accepted = b.accepted := by simp [record_built Event.accepted_ofWork]
  have handed : (b.built r).handed = b.handed := by simp [record_built Event.handed_ofWork]
  have running : b.phase.isRunning := by rw [hp]; rfl
  refine ⟨fun hr id hid => ?_, nofun, nofun, fun c hc => handed ▸ h.wrapped_handed c (wrapped ▸ hc)⟩
  have queue : (b.built r).queue = b.queue := by
    rcases built_turns b r with ⟨-, -, -, queue⟩ | ⟨-, crashed, -⟩
    · exact queue
    · change (b.built r).phase.isRunning at hr
      simp [crashed, Phase.isRunning] at hr
  have same : (b.built r).table = b.table ∧ (b.built r).deferred = b.deferred := by
    rcases r with (f | text) | s <;> exact ⟨rfl, rfl⟩
  obtain ⟨table, deferred⟩ := same
  obtain ⟨c, hi, has⟩ := h.kept running id (table ▸ hid)
  exact ⟨c, hi, has.mono (deferred ▸ List.Subset.refl _) (queue ▸ List.Subset.refl _) nofun
    (wrapped ▸ List.Subset.refl _) (accepted ▸ List.Subset.refl _)⟩

/-- A turn takes one command away from where it was. -/
theorem turn (h : Custody ⟨b, .idle⟩) (hn : b.next? = some (c, b')) (hp : id ∈ b.table.pending) :
    id = c.id ∨ ∃ c', c'.id = id ∧ (⟨b'.note (.taken c), .idle⟩ : Moment σ).Has c' := by
  have wrapped : b'.wrapped = b.wrapped := record_next Event.wrapped? hn
  have accepted : b'.accepted = b.accepted := record_next Event.accepted? hn
  have running := Phase.isRunning_of_isTaking (taking_of_next? hn)
  -- Nobody's place changes but that of the command whose turn it is.
  obtain ⟨c', rfl, hd | hq | hc | ht⟩ := h.kept running id hp
  · rcases next?_cases hn with ⟨cs, -, hd', rfl⟩ | ⟨cs, -, -, -, rfl⟩
    · rcases List.mem_cons.1 (hd' ▸ hd) with rfl | hd
      · exact .inl rfl
      · exact .inr ⟨c', rfl, .inl hd⟩
    · exact .inr ⟨c', rfl, .inl hd⟩
  · rcases next?_cases hn with ⟨cs, -, -, rfl⟩ | ⟨cs, -, -, hq', rfl⟩
    · exact .inr ⟨c', rfl, .inr (.inl hq)⟩
    · rcases List.mem_cons.1 (hq' ▸ hq) with rfl | hq
      · exact .inl rfl
      · exact .inr ⟨c', rfl, .inr (.inl hq)⟩
  · cases hc
  · have well : c' ∈ b'.wrapped ∧ c' ∈ b'.accepted := by
      rw [wrapped, accepted]
      exact ht
    exact .inr ⟨c', rfl, .inr (.inr (.inr well))⟩

/-- When the engine is done with a command, the command is resolved or was taken well. -/
theorem returned (h : Custody m) (l : Ledger m.bridge) (hc : m.work.command? = some c)
    {r : σ × Except Abort Unit} (hw : r.2 = .ok () → c ∈ m.bridge.wrapped) :
    Custody ⟨m.bridge.returned c r, .idle⟩ := by
  have wrapped : (m.bridge.returned c r).wrapped = m.bridge.wrapped := by
    simp [record_returned Event.wrapped_ofWork]
  have recorded : (m.bridge.returned c r).accepted = m.bridge.accepted ++ (Event.returned c r.2).accepted?.toList :=
    record_returned Event.accepted_ofWork c r
  have accepted : m.bridge.accepted ⊆ (m.bridge.returned c r).accepted :=
    recorded ▸ List.subset_append_left _ _
  have handed : (m.bridge.returned c r).handed = m.bridge.handed := by
    simp [record_returned Event.handed_ofWork]
  refine ⟨fun hr id hid => ?_, nofun, nofun, fun c hc => handed ▸ h.wrapped_handed c (wrapped ▸ hc)⟩
  -- The engine has nothing in hand any more: its command was resolved, or is on record as taken well.
  obtain ⟨s, (a | u)⟩ := r
  · have left : (m.bridge.returned c (s, .error a)).table.pending = m.bridge.table.pending.erase c.id :=
      pending_resolve _ _ _
    obtain ⟨other, old⟩ := l.pending_nodup.mem_erase_iff.1 (left ▸ hid)
    obtain ⟨c', rfl, has⟩ := h.kept hr id old
    refine ⟨c', rfl, has.mono (List.Subset.refl _) (List.Subset.refl _) (fun hc' => ?_)
      (wrapped ▸ List.Subset.refl _) accepted⟩
    obtain rfl : c = c' := Option.some.inj (hc.symm.trans hc')
    exact absurd rfl other
  · obtain ⟨c', rfl, has⟩ := h.kept hr id hid
    refine ⟨c', rfl, has.mono (List.Subset.refl _) (List.Subset.refl _) (fun hc' => ?_)
      (wrapped ▸ List.Subset.refl _) accepted⟩
    obtain rfl : c = c' := Option.some.inj (hc.symm.trans hc')
    have taken_well : c ∈ (m.bridge.returned c (s, .ok u)).accepted :=
      recorded ▸ List.mem_append_right _ (List.mem_singleton_self c)
    exact .inr (.inr (.inr ⟨wrapped ▸ hw rfl, taken_well⟩))

theorem close (h : Custody ⟨b, .idle⟩) : Custody ⟨b.close, .idle⟩ := by
  have stopped : b.close.phase = .stopped :=
    close_keeps (I := fun b => b.phase = .stopped) (fun _ _ hb => hb) b rfl
  have wrapped : b.close.wrapped = b.wrapped := record_close Event.wrapped_ofWork
  have handed : b.close.handed = b.handed := record_close Event.handed_ofWork
  refine ⟨fun hr => ?_, nofun, nofun, fun c hc => handed ▸ h.wrapped_handed c (wrapped ▸ hc)⟩
  rw [stopped] at hr
  cases hr

/-- A turn may end without the engine if the command's id is not pending then. -/
theorem passed (h : Custody ⟨b, .idle⟩) (hn : b.next? = some (c, b')) {b₁ : Bridge σ}
    (ho : (b'.note (.taken c)).Outer b₁) (hp : ∀ id ∈ b₁.table.pending, id ∈ b.table.pending ∧ id ≠ c.id) :
    Custody ⟨b₁, .idle⟩ := by
  have wrapped : b₁.wrapped = (b'.note (.taken c)).wrapped := record_outer Event.wrapped_ofWork ho
  have accepted : b₁.accepted = (b'.note (.taken c)).accepted := record_outer Event.accepted_ofWork ho
  have handed : b₁.handed = b.handed :=
    (record_outer Event.handed_ofWork ho).trans (by simp [record_next _ hn])
  obtain ⟨-, deferred, -⟩ := queues_outer ho
  refine ⟨fun _ id hid => ?_, nofun, nofun, fun c' hc => ?_⟩
  · obtain ⟨old, other⟩ := hp id hid
    obtain ⟨c', hi, has⟩ := (h.turn hn old).resolve_left other
    exact ⟨c', hi, has.mono (deferred ▸ List.Subset.refl _) (queue_outer ho) nofun (wrapped ▸ List.Subset.refl _)
      (accepted ▸ List.Subset.refl _)⟩
  · have same : b'.wrapped = b.wrapped := record_next Event.wrapped? hn
    have old : c' ∈ b'.wrapped := wrapped ▸ hc
    exact handed ▸ h.wrapped_handed c' (same ▸ old)

theorem stride (hs : Stride e m m') (l : Ledger m.bridge) (ready : Readied m) (h : Custody m) : Custody m' := by
  cases hs with
  | rest => exact h
  | beginBuild hp => exact ⟨h.kept, nofun, nofun, h.wrapped_handed⟩
  | actInBuild ha => exact h.outer l ha.outer rfl nofun
  | actInWrapping ha => exact h.outer l ha.outer rfl nofun
  | actInEvaluation ha c rest =>
    refine h.outer l ha.outer rfl fun c' rest' hw => ?_
    obtain ⟨rfl, -⟩ := Work.evaluating.inj hw
    exact ⟨rest, rfl⟩
  | endBuild b r =>
    have idle : Custody ⟨b, .idle⟩ := ⟨h.kept, nofun, nofun, h.wrapped_handed⟩
    exact idle.built (ready.starting _ rfl) r
  | @drain b hp =>
    have running : b.phase.isRunning := by rcases hp with hp | hp <;> rw [hp] <;> rfl
    exact ⟨fun _ => h.kept running, nofun, nofun, h.wrapped_handed⟩
  | @park b hp =>
    have running : b.phase.isRunning := by rw [hp]; rfl
    exact ⟨fun _ => h.kept running, nofun, nofun, h.wrapped_handed⟩
  | @defer b c cs hp hq =>
    have running : b.phase.isRunning := by rw [hp]; rfl
    refine ⟨fun _ id hid => ?_, nofun, nofun, h.wrapped_handed⟩
    obtain ⟨c', hi, hd | hq' | hc | ht⟩ := h.kept running id hid
    · exact ⟨c', hi, .inl (List.mem_append_left _ hd)⟩
    · rcases List.mem_cons.1 (hq ▸ hq') with rfl | hq'
      · exact ⟨c', hi, .inl (List.mem_append_right _ (List.mem_singleton_self c'))⟩
      · exact ⟨c', hi, .inr (.inl hq')⟩
    · cases hc
    · exact ⟨c', hi, .inr (.inr (.inr ht))⟩
  | @serve b hp hd =>
    have running : b.phase.isRunning := by rw [hp]; rfl
    exact ⟨fun _ => h.kept running, nofun, nofun, h.wrapped_handed⟩
  | close => exact h.close
  | @skip b b' c hn hi =>
    have same := next?_table hn
    refine h.passed hn (.same _) fun id hid => ?_
    have old : id ∈ b.table.pending := same ▸ hid
    exact ⟨old, fun hc => hi (hc ▸ old)⟩
  | @refuse b b' c hn hi f =>
    have same := next?_table hn
    refine h.passed hn (.resolve _ _ _) fun id hid => ?_
    have left : ((b'.note (.taken c)).resolve c.id (.error f)).table.pending = b.table.pending.erase c.id := by
      rw [pending_resolve, ← same]
      rfl
    exact (l.pending_nodup.mem_erase_iff.1 (left ▸ hid)).symm
  | @handOver b b' c hn hi hg s hs =>
    have same := next?_table hn
    have handed : ((b'.note (.taken c)).note (.handedOver c)).handed = b.handed ++ [c] := by
      simp [record_next _ hn]
    have wrapped : b'.wrapped = b.wrapped := record_next Event.wrapped? hn
    refine ⟨fun _ id hid => ?_, nofun, fun c' hc => ?_, fun c' hc => ?_⟩
    · rcases h.turn hn (same ▸ hid) with rfl | ⟨c', hi, has⟩
      · exact ⟨c, rfl, .inr (.inr (.inl rfl))⟩
      · exact ⟨c', hi, has.mono (List.Subset.refl _) (List.Subset.refl _) nofun (List.Subset.refl _)
          (List.Subset.refl _)⟩
    · obtain rfl : c = c' := Option.some.inj hc
      exact handed ▸ List.mem_append_right _ (List.mem_singleton_self c)
    · exact handed ▸ List.mem_append_left _ (h.wrapped_handed c' (wrapped ▸ hc))
  | failWrapping b c s a => exact h.returned l rfl nofun
  | endWrapping b c s program =>
    have wrapped : (b.note (.wrapped c)).wrapped = b.wrapped ++ [c] := record_note Event.wrapped? b (.wrapped c)
    refine ⟨fun hr id hid => ?_, fun c' rest hw => ?_, h.handed, fun c' hc => ?_⟩
    · obtain ⟨c', hi, has⟩ := h.kept hr id hid
      exact ⟨c', hi, has.mono (List.Subset.refl _) (List.Subset.refl _) (fun hc => .inr (.inr (.inl hc)))
        (wrapped ▸ List.subset_append_left _ _) (List.Subset.refl _)⟩
    · obtain ⟨rfl, -⟩ := Work.evaluating.inj hw
      exact wrapped ▸ List.mem_append_right _ (List.mem_singleton_self c)
    · rcases List.mem_append.1 (wrapped ▸ hc) with hc | hc
      · exact h.wrapped_handed c' hc
      · exact List.mem_singleton.1 hc ▸ h.handed c rfl
  | endEvaluation b c r => exact h.returned l rfl fun _ => h.wrapped c _ rfl

theorem start (config : Config) (number : Nat) : Custody (Moment.start config number : Moment σ) :=
  ⟨fun _ => nofun, nofun, nofun, nofun⟩

end Custody

theorem custody_after (e : Engine σ) (config : Config) (number : Nat) (vs : List (Move σ)) :
    Custody ((Moment.start config number).after e vs) := by
  have all : Ledger ((Moment.start config number).after e vs).bridge ∧
      Readied ((Moment.start config number).after e vs) ∧ Custody ((Moment.start config number).after e vs) :=
    Moment.after_keeps (I := fun m => Ledger m.bridge ∧ Readied m ∧ Custody m)
      (fun _ _ ho h => ⟨h.1.outer ho, h.2.1.outer ho (fun rest hr => ⟨rest, hr⟩) fun _ hc => hc,
        h.2.2.outer h.1 ho rfl fun _ rest hr => ⟨rest, hr⟩⟩)
      (fun _ _ hs h => ⟨h.1.stride hs, .stride hs h.2.1, .stride hs h.1 h.2.1 h.2.2⟩)
      ⟨.fresh config number, .start config number, .start config number⟩ vs
  exact all.2.2

/-- The gate is open, the engine thread runs, and it has nothing left to do. -/
structure Settled (m : Moment σ) : Prop where
  opened : m.bridge.gate.isReady
  running : m.bridge.phase.isRunning
  none_deferred : m.bridge.deferred = []
  none_queued : m.bridge.queue = []
  idle : m.work = .idle

/-- A factory that failed made no engine. -/
theorem Readied.not_some_of_failed (h : Readied m) {a : Abort} (ha : .error a ∈ m.bridge.factory) :
    ¬ m.bridge.engine.isSome := by
  rw [h.engine_iff]
  intro ok
  have once := h.built_once
  match hf : m.bridge.factory with
  | [] => simp [hf] at ok
  | [r] =>
    rw [hf, List.mem_singleton] at ha ok
    cases ok.trans ha.symm
  | _ :: _ :: _ => simp [hf] at once

/-- Where the engine thread has nothing left to do, what is pending was given to the engine, once, and the
engine wrapped and evaluated it without failing. Where no engine came up, nothing is pending. -/
theorem nothing_is_stranded (e : Engine σ) (config : Config) (number : Nat) (vs : List (Move σ))
    (settled : Settled ((Moment.start config number).after e vs)) :
    let b := ((Moment.start config number).after e vs).bridge
    (∀ id, b.table.isPending id → (b.handed.map (·.id)).count id = 1 ∧
      ∃ c ∈ b.handed, c.id = id ∧ c ∈ b.wrapped ∧ c ∈ b.accepted) ∧
    ((∃ reason, b.gate = .ready (.initFailed reason)) ∨ (∃ f, .error (.failed f) ∈ b.factory) →
      b.pending = 0) := by
  intro b
  have custody := custody_after e config number vs
  obtain ⟨queues, ready⟩ := queues_after e config number vs
  have ledger : Ledger b := ledger_after e config number vs
  have owed : ∀ id ∈ b.table.pending, ∃ c ∈ b.handed, c.id = id ∧ c ∈ b.wrapped ∧ c ∈ b.accepted := by
    intro id hid
    obtain ⟨c, hi, hd | hq | hc | ht⟩ := custody.kept settled.running id hid
    · simp [settled.none_deferred] at hd
    · simp [settled.none_queued] at hq
    · simp [settled.idle, Work.command?] at hc
    · exact ⟨c, custody.wrapped_handed c ht.1, hi, ht⟩
  constructor
  · intro id hp
    obtain ⟨c, hc, hi, ht⟩ := owed id (Table.isPending_iff.1 hp)
    have handed_sent : b.handed.Sublist b.sent :=
      (Moment.handed_taken_after e config number vs).trans queues.taken_first.sublist
    have once : (b.handed.map (·.id)).Nodup :=
      (ledger.issued_nodup.sublist queues.ids).sublist (handed_sent.map _)
    exact ⟨List.count_eq_one_of_mem once (hi ▸ List.mem_map_of_mem hc), c, hc, hi, ht⟩
  · intro failed
    have none_handed : ∀ c, c ∉ b.handed := by
      intro c hc
      obtain ⟨⟨r, hr, not_failed⟩, some⟩ := ready.handed c hc
      rcases failed with ⟨reason, hg⟩ | ⟨f, hf⟩
      · exact not_failed reason (Gate.ready.inj (hr.symm.trans hg))
      · exact ready.not_some_of_failed hf some
    have none_pending : b.table.pending = [] := by
      refine List.eq_nil_iff_forall_not_mem.2 fun id hid => ?_
      obtain ⟨c, hc, -⟩ := owed id hid
      exact none_handed c hc
    exact congrArg List.length none_pending

/-- An engine that takes everything well and signals nothing. -/
def silent : Engine Unit where
  build := .done (.ok ())
  wrap _ _ source := .done ((), .ok source)
  evaluate _ _ _ := .done ((), .ok ())

/-- A silent engine is started, reports, and takes a source. -/
def silentRun : List (Move Unit) :=
  [.advance, .advance, .act .ready, .act (.invoke "x"), .advance, .advance, .advance, .advance, .advance]

theorem silent_engine_owes_a_signal :
    Settled ((Moment.start {} 1).after silent silentRun) ∧
      ((Moment.start {} 1).after silent silentRun).bridge.table.isPending (.issue "inv" 1) ∧
      (((Moment.start {} 1).after silent silentRun).bridge.handed.map (·.id)).count (.issue "inv" 1) = 1 := by
  have settled : Settled ((Moment.start {} 1).after silent silentRun) := ⟨rfl, rfl, rfl, rfl, rfl⟩
  have pending : ((Moment.start {} 1).after silent silentRun).bridge.table.isPending (.issue "inv" 1) := rfl
  exact ⟨settled, pending, ((nothing_is_stranded silent {} 1 silentRun settled).1 _ pending).1⟩

end ScriptHost
