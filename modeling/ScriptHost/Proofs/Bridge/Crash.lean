import ScriptHost.Proofs.Bridge.Answers
/-!
A factory that panics.

The engine thread ends where its factory panics, whatever the factory did before (`crashed_of_panicked`). It does
not close down: a source that was invoked before that waits for a thread that is gone (`pending_after`). What is
invoked after it fails at once (`refused_after`).
-/

namespace ScriptHost

open Bridge

variable {σ : Type} {e : Engine σ} {b b' : Bridge σ} {m m' : Moment σ} {id : InvocationId} {text : String}

/-! ## The thread ends -/

theorem Crashed.stride (hs : Stride e m m') (h : .error (.panicked text) ∈ m.bridge.factory → Crashed m)
    (panicked : .error (.panicked text) ∈ m'.bridge.factory) : Crashed m' := by
  rcases factory_stride hs with same | ⟨b, r, rfl, rfl⟩
  · have before := h (same ▸ panicked)
    rwa [before.gone.stride hs]
  · have recorded : (b.built r).factory = b.factory ++ [r.map fun _ => ()] := record_built Event.built_ofWork r
    rw [recorded, List.mem_append, List.mem_singleton] at panicked
    rcases panicked with earlier | now
    · -- Who panicked before is not at it any more.
      cases (h earlier).idle
    · rcases r with (f | text') | s
      · cases now
      · exact ⟨rfl, rfl⟩
      · cases now

theorem crashed_of_panicked (e : Engine σ) (config : Config) (number : Nat) (vs : List (Move σ))
    (panicked : .error (.panicked text) ∈ ((Moment.start config number).after e vs).bridge.factory) :
    Crashed ((Moment.start config number).after e vs) := by
  refine Moment.after_keeps (I := fun m : Moment σ => .error (.panicked text) ∈ m.bridge.factory → Crashed m)
    (fun m b ho h panicked => ?_) (fun m m' hs h => Crashed.stride hs h) (fun h => ?_) vs panicked
  · have factory : b.factory = m.bridge.factory := record_outer Event.built_ofWork ho
    have before := h (factory ▸ panicked)
    exact ⟨before.idle, (queues_outer ho).1.trans before.crashed⟩
  · simp [Moment.start, Bridge.fresh, record] at h

/-! ## What is invoked after the end -/

/-- Where no thread takes commands, what is issued is completed with a failure at once. -/
theorem refused_outer (ended : b.phase.isRunning = false) (ho : b.Outer b') (issued : id ∈ b'.issued) :
    id ∈ b.issued ∨ ∃ f, (id, .error f) ∈ b'.resolutions := by
  cases ho with
  | dispatch source held =>
    rw [dispatch_of_ended ended] at issued ⊢
    have entered : b.nextId ∈ (b.enter held).table.pending := by
      simp [enter, note, Table.register]
    have known : id ∈ b.issued ∨ id = b.nextId := by simpa using issued
    refine known.imp_right ?_
    rintro rfl
    exact ⟨(encodingFault? source).getD .notRunning, by simp [entered]⟩
  | resolve | release | openGate => exact .inl (by simpa using issued)
  | same | hold | cancel | pass | elsewhere | share => exact .inl issued

theorem refused_after (gone : Gone m) (e : Engine σ) (ws : List (Move σ))
    (issued : id ∈ (m.after e ws).bridge.issued) :
    id ∈ m.bridge.issued ∨ ∃ f, (id, .error f) ∈ (m.after e ws).bridge.resolutions := by
  have kept : Gone (m.after e ws) ∧ ∀ id ∈ (m.after e ws).bridge.issued,
      id ∈ m.bridge.issued ∨ ∃ f, (id, .error f) ∈ (m.after e ws).bridge.resolutions := by
    refine Moment.after_keeps (I := fun m' : Moment σ => Gone m' ∧ ∀ id ∈ m'.bridge.issued,
      id ∈ m.bridge.issued ∨ ∃ f, (id, .error f) ∈ m'.bridge.resolutions) ?_ ?_ ⟨gone, fun _ => .inl⟩ ws
    · rintro m' b ho ⟨gone, refused⟩
      refine ⟨gone.outer ho, fun id issued => ?_⟩
      rcases refused_outer gone.ended ho issued with earlier | now
      · have grows : m'.bridge.resolutions ⊆ b.resolutions := (Moment.record_mono (Moment.journal_outer ho)).subset
        exact (refused id earlier).imp_right fun ⟨f, hf⟩ => ⟨f, grows hf⟩
      · exact .inr now
    · rintro m' m'' hs ⟨gone, refused⟩
      rw [gone.stride hs]
      exact ⟨gone, refused⟩
  exact kept.2 id issued

/-- Where the thread has ended, nobody completes what is pending but who signals it. -/
theorem pending_after (gone : Gone m) (l : Ledger m.bridge) (e : Engine σ) (ws : List (Move σ))
    (pending : id ∈ m.bridge.table.pending) (unsignalled : id ∉ Move.signalled ws) :
    id ∈ (m.after e ws).bridge.table.pending ∨ id ∈ (m.after e ws).bridge.discarded := by
  induction ws generalizing m with
  | nil => exact .inl pending
  | cons v ws ih =>
    have later : id ∉ Move.signalled ws := by
      intro hs
      simp only [Move.signalled, List.filterMap_cons] at unsignalled hs
      split at unsignalled
      · exact unsignalled hs
      · exact unsignalled (List.mem_cons_of_mem _ hs)
    by_cases hv : v = .advance
    · subst hv
      have rests : m.step e .advance = m := gone.stride (Moment.stride_advance e m)
      rw [Moment.after_cons, rests]
      exact ih gone l pending later
    · have ho := outer_move m.bridge v
      rw [Moment.after_cons, Moment.step_of_ne e m hv]
      by_cases still : id ∈ (m.bridge.move v).table.pending
      · exact ih (gone.outer ho) (l.outer ho) still later
      · have issued := (Moment.record_mono (f := Event.issued?) (Moment.journal_outer ho)).subset
          ((l.pending_iff id).1 pending).1
        rcases mem_ended.1 ((l.outer ho).ended_of_not_pending issued still) with ⟨o, resolved⟩ | given_up
        · rcases mem_resolutions_move resolved with old | signalled | new
          · exact absurd old (l.not_resolved_of_pending pending)
          · exact absurd (List.mem_filterMap.2 ⟨v, List.mem_cons_self, signalled⟩) unsignalled
          · exact absurd (new ▸ ((l.pending_iff id).1 pending).1) l.nextId_not_issued
        · exact .inr ((Moment.record_after Event.discarded? e ⟨m.bridge.move v, m.work⟩ ws).subset given_up)

/-- Once the factory has panicked, its thread has ended for good: what it was sent is lost, and the engine was
given nothing. What is pending stays so until it is signalled or given up. Nothing else gets pending any more:
what is invoked fails at once, and whoever invokes it is told so. -/
theorem factory_panic_ends_the_thread (e : Engine σ) (config : Config) (number : Nat) (vs ws : List (Move σ))
    {text : String} (panicked : .error (.panicked text) ∈ ((Moment.start config number).after e vs).bridge.factory) :
    let m := (Moment.start config number).after e vs
    let later := m.after e ws
    (later.work = .idle ∧ later.bridge.phase = .crashed ∧ later.bridge.deferred = [] ∧ later.bridge.queue = [] ∧
      later.Untouched) ∧
    (∀ id, m.bridge.table.isPending id → id ∉ Move.signalled ws → id ∉ later.bridge.discarded →
      later.bridge.table.isPending id) ∧
    ((∀ id, later.bridge.table.isPending id → m.bridge.table.isPending id) ∧
      ∀ id ∈ later.bridge.issued, id ∉ m.bridge.issued → ∃ f, (id, .error f) ∈ later.bridge.resolutions) ∧
    (∀ source, Char.ofNat 0 ∉ source.toList →
      Rejects e later.bridge source (.transport "engine thread is not running")) ∧
    (∀ source offset, Text.offset? (Char.ofNat 0) source = some offset →
      Rejects e later.bridge source (.encoding s!"source contains a NUL byte at offset {offset}")) := by
  intro m later
  have gone : Gone m := (crashed_of_panicked e config number vs panicked).gone
  have reached : (Moment.start config number).after e (vs ++ ws) = later := Moment.after_append e _ vs ws
  have still : .error (.panicked text) ∈ later.bridge.factory := (Moment.record_after _ e m ws).subset panicked
  have crashed : Crashed later := by
    rw [← reached] at still ⊢
    exact crashed_of_panicked e config number (vs ++ ws) still
  have ledger : Ledger later.bridge := reached ▸ ledger_after e config number (vs ++ ws)
  obtain ⟨queues, ready⟩ : Queues later.bridge ∧ Readied later := reached ▸ queues_after e config number (vs ++ ws)
  have untouched : later.Untouched := by
    have none_built : later.bridge.engine.isSome = false := by simpa using ready.not_some_of_failed still
    rw [← reached] at none_built ⊢
    exact untouched_of_refusal e config number (vs ++ ws) (.inr none_built)
  obtain ⟨none_deferred, none_queued⟩ := queues.emptied crashed.gone.ended
  have rejects := rejects_of_ended crashed.gone.ended ledger e
  refine ⟨⟨crashed.idle, crashed.crashed, none_deferred, none_queued, untouched⟩, ?_, ⟨?_, ?_⟩, ?_, ?_⟩
  · intro id pending unsignalled kept
    have stays := pending_after gone (ledger_after e config number vs) e ws (Table.isPending_iff.1 pending) unsignalled
    exact Table.isPending_iff.2 (stays.resolve_right kept)
  · intro id pending
    have among := (gone.after e ws).2
    exact Table.isPending_iff.2 (among (Table.isPending_iff.1 pending))
  · intro id issued new
    exact (refused_after gone e ws issued).resolve_left new
  · intro source clean
    have refused := rejects source
    rwa [(encodingFault?_eq_none source).2 clean] at refused
  · intro source offset ho
    have refused := rejects source
    simpa [encodingFault?, ho] using refused

/-- An engine whose factory reports that it is ready and panics then. -/
def breaking : Engine Unit where
  build := .act .ready fun _ => .done (.error (.panicked "no engine"))
  wrap _ _ source := .done ((), .ok source)
  evaluate _ _ _ := .done ((), .ok ())

/-- A source is invoked while the factory is at work. -/
def breakingRun : List (Move Unit) := [.advance, .act (.invoke "x"), .advance, .advance]

theorem sources_fail_after_panic :
    let m := (Moment.start {} 1).after breaking breakingRun
    let later := m.after breaking [.act .shutdown, .advance]
    .error (.panicked "no engine") ∈ m.bridge.factory ∧ later.Untouched ∧
      later.bridge.table.isPending (.issue "inv" 1) ∧
      Rejects breaking later.bridge "y" (.transport "engine thread is not running") ∧
      Rejects breaking later.bridge "y\x00" (.encoding "source contains a NUL byte at offset 1") := by
  intro m later
  have panicked : .error (.panicked "no engine") ∈ m.bridge.factory := List.mem_singleton_self _
  obtain ⟨⟨-, -, -, -, untouched⟩, stays, -, clean, unclean⟩ :=
    factory_panic_ends_the_thread breaking {} 1 breakingRun [.act .shutdown, .advance] panicked
  have none_given_up : InvocationId.issue "inv" 1 ∉ later.bridge.discarded := List.not_mem_nil
  exact ⟨panicked, untouched, stays _ rfl (by decide) none_given_up, clean "y" (by decide),
    unclean "y\x00" 1 (by decide)⟩

/-- A source that is invoked before the panic is not completed with it: its command is gone with the thread, and
it stays pending however long the thread is left to itself. Not every later source fails for want of the
thread: one that holds a NUL fails for that. -/
theorem panic_strands_source :
    let m := (Moment.start {} 1).after breaking breakingRun
    .error (.panicked "no engine") ∈ m.bridge.factory ∧ m.bridge.phase = .crashed ∧
      m.bridge.sent = [⟨.issue "inv" 1, "x"⟩] ∧ m.bridge.resolutions = [] ∧
      (∀ n, (m.after breaking (Moment.alone n)).bridge.table.isPending (.issue "inv" 1)) ∧
      ((m.bridge.invoke "y\x00").2.poll (m.bridge.invoke "y\x00").1).1 =
        some (.error (.encoding "source contains a NUL byte at offset 1")) := by
  intro m
  have panicked : .error (.panicked "no engine") ∈ m.bridge.factory := List.mem_singleton_self _
  have gone : Gone m := (crashed_of_panicked breaking {} 1 breakingRun panicked).gone
  have ledger : Ledger m.bridge := ledger_after breaking {} 1 breakingRun
  have fault : encodingFault? "y\x00" = some (.encoding "source contains a NUL byte at offset 1") := by
    have nul : Text.offset? (Char.ofNat 0) "y\x00" = some 1 := by decide
    rw [encodingFault?, nul]
    rfl
  refine ⟨panicked, rfl, rfl, rfl, fun n => ?_, ?_⟩
  · rw [gone.alone breaking n]
    rfl
  · have refused := (rejects_of_ended gone.ended ledger breaking "y\x00").invoked.1
    rwa [fault] at refused

end ScriptHost
