import ScriptHost.Proofs.Bridge.Resolution
import ScriptHost.Proofs.Bridge.Waiting
/-!
Blocking for an outcome and waiting for it.

A thread that blocks holds its id from the start; the holder of a handle may begin to wait later. Beginning
a wait changes nothing that the engine thread works on (`hold_settle`), so the two calls come to the same, in
what they answer and in the bridge that they leave.
-/

namespace ScriptHost

open Bridge

variable {σ α : Type} {e : Engine σ} {b b' b'' : Bridge σ} {c : Command} {id : InvocationId} {o : Outcome}

namespace Bridge

/-! ## Beginning to wait -/

theorem resolve_hold (b : Bridge σ) (id j : InvocationId) (o : Outcome) :
    (b.hold id).resolve j o = (b.resolve j o).hold id := by
  simp only [resolve, hold, noteIf, Table.resolve_hold, Table.isPending_hold]
  rfl

theorem hold_hold (b : Bridge σ) (id : InvocationId) : (b.hold id).hold id = b.hold id := by
  simp only [hold, Table.hold_hold]

theorem release_hold (b : Bridge σ) (id j : InvocationId) : (b.hold id).release j = (b.release j).hold id := by
  simp only [release, hold, noteIf, Table.release_hold, Table.isPending_hold, Table.isSome_waiter?_hold]

theorem release_hold_self (b : Bridge σ) (id : InvocationId) : (b.hold id).release id = b.release id := by
  simp only [release, hold, noteIf, Table.release_hold_self, Table.isPending_hold, Table.isSome_waiter?_hold]

theorem failEach_hold (b : Bridge σ) (id : InvocationId) (f : Failure) (ids : List InvocationId) :
    (b.hold id).failEach f ids = (b.failEach f ids).hold id := by
  induction ids generalizing b with
  | nil => rfl
  | cons j ids ih =>
    simp only [failEach, List.foldl_cons] at ih ⊢
    rw [resolve_hold, ih]

theorem dispatch_hold (b : Bridge σ) (hi : b.nextId ≠ id) (source : String) :
    (b.hold id).dispatch source = ((b.dispatch source).1, (b.dispatch source).2.hold id) := by
  have entered : (b.hold id).enter false = (b.enter false).hold id := by
    simp only [enter, hold, note, nextId] at hi ⊢
    rw [Table.register_hold hi]
  refine Prod.ext rfl ?_
  change ((b.hold id).enter false).send _ = ((b.enter false).send _).hold id
  rw [entered]
  simp only [send]
  split
  · exact resolve_hold _ _ _ _
  · change (if b.phase.isRunning then _ else _) = Bridge.hold (if b.phase.isRunning then _ else _) id
    split
    · rfl
    · exact resolve_hold _ _ _ _

/-- A thread that blocks for an id begins to wait as it is dispatched. -/
theorem dispatch_held (h : Ledger b) (source : String) :
    (b.dispatch source true).2 = (b.dispatch source).2.hold b.nextId := by
  have fresh : b.nextId ∉ b.table.waiters.map (·.id) := fun hw => h.nextId_not_issued ((h.waiting_iff _).1 hw).1
  have entered : b.enter true = (b.enter false).hold b.nextId := by
    simp only [enter, hold, note]
    rw [Table.register_held fresh]
  change (b.enter true).send _ = ((b.enter false).send _).hold b.nextId
  rw [entered]
  simp only [send]
  split
  · exact resolve_hold _ _ _ _
  · change (if b.phase.isRunning then _ else _) = Bridge.hold (if b.phase.isRunning then _ else _) b.nextId
    split
    · rfl
    · exact resolve_hold _ _ _ _

/-- Who is let go is not waiting any more, and not pending. -/
theorem gone_release (h : Ledger b) (id : InvocationId) :
    id ∉ (b.release id).table.pending ∧ id ∉ (b.release id).table.waiters.map (·.id) := by
  have gone : id ∉ (b.release id).table.waiters.map (·.id) := by
    have left : (b.release id).table.waiters = b.table.waiters.filter fun w => w.id ≠ id := Table.waiters_release
    rw [left]
    intro hw
    obtain ⟨w, hw, hi⟩ := List.mem_map.1 hw
    simpa [hi] using (List.mem_filter.1 hw).2
  exact ⟨fun hp => gone ((h.release id).waiting_of_pending hp), gone⟩

end Bridge

/-! ## Handles that are kept -/

/-- A bridge later: its journal has grown, and the table still agrees with it. -/
structure Grows (b b' : Bridge σ) : Prop where
  ledger : Ledger b → Ledger b'
  journal : b.journal <:+ b'.journal

namespace Grows

theorem refl (b : Bridge σ) : Grows b b := ⟨id, List.suffix_rfl⟩

theorem trans (g : Grows b b') (g' : Grows b' b'') : Grows b b'' :=
  ⟨fun l => g'.ledger (g.ledger l), g.journal.trans g'.journal⟩

theorem outer (h : b.Outer b') : Grows b b' := ⟨fun l => l.outer h, Moment.journal_outer h⟩

theorem stride {w w' : Work σ} (h : Stride e ⟨b, w⟩ ⟨b', w'⟩) : Grows b b' :=
  ⟨fun l => .stride h l, Moment.journal_stride h⟩

theorem run (b : Bridge σ) (c : Conduct α) : Grows b (b.run c).2 := by
  induction c generalizing b with
  | done a => exact refl b
  | act a next ih => exact (outer (acted_perform b a).outer).trans (ih _ _)

theorem evaluated (e : Engine σ) (b : Bridge σ) (c : Command) (rest : Conduct (σ × Except Abort String)) :
    Grows (b.run rest).2 (b.handOff e c rest) := by
  unfold Bridge.handOff
  split
  · rename_i s a b₁ hr
    rw [hr]
    exact stride (e := e) (.failWrapping b₁ c s a)
  · rename_i s program b₁ hr
    rw [hr]
    have noted : Grows b₁ (b₁.note (.wrapped c)) := stride (e := e) (.endWrapping b₁ c s program)
    exact noted.trans ((run _ _).trans (stride (e := e) (.endEvaluation _ c _)))

theorem tick (h : b.tick e = some b') : Grows b b' := by
  have first := stride_task e b
  unfold Bridge.tick at h
  cases ht : b.task e with
  | wait => simp [ht] at h
  | step b₁ =>
    rw [ht] at first h
    exact Option.some.inj h ▸ stride first
  | build b₁ rest =>
    rw [ht] at first h
    have built : Grows (b₁.run rest).2 ((b₁.run rest).2.built (b₁.run rest).1) :=
      stride (e := e) (.endBuild _ _)
    exact Option.some.inj h ▸ ((stride first).trans (run b₁ rest)).trans built
  | wrap b₁ c rest =>
    rw [ht] at first h
    exact Option.some.inj h ▸ (stride first).trans ((run b₁ rest).trans (evaluated e b₁ c rest))

theorem settle (e : Engine σ) (patience : Nat) (b : Bridge σ) : Grows b (b.settle e patience) := by
  induction patience generalizing b with
  | zero => exact refl b
  | succ n ih =>
    unfold Bridge.settle
    split
    · exact refl b
    · rename_i b₁ ht
      exact (tick ht).trans (ih b₁)

end Grows

/-- An id that was issued and is still with its waiter after what a bridge went through. -/
structure Kept (id : InvocationId) (b b' : Bridge σ) : Prop where
  ledger : Ledger b
  issued : id ∈ b.issued
  waiting : id ∈ b'.table.waiters.map (·.id)

namespace Kept

/-- Who waits in the end waited in between, because nobody waits for an id again that was let go. -/
theorem first (k : Kept id b b'') (g : Grows b b') (g' : Grows b' b'') : Kept id b b' := by
  refine ⟨k.ledger, k.issued, ?_⟩
  have between := g.ledger k.ledger
  have issued := (Moment.record_mono g.journal).subset k.issued
  refine (between.waiting_iff id).2 ⟨issued, fun hr => ?_⟩
  exact (((g'.ledger between).waiting_iff id).1 k.waiting).2 ((Moment.record_mono g'.journal).subset hr)

theorem rest (k : Kept id b b'') (g : Grows b b') : Kept id b' b'' :=
  ⟨g.ledger k.ledger, (Moment.record_mono g.journal).subset k.issued, k.waiting⟩

end Kept

namespace Bridge

/-! ## The engine thread does not look at waits -/

theorem drop_hold {j : InvocationId} (k : Kept id b (b.drop j)) : (b.hold id).drop j = (b.drop j).hold id := by
  by_cases hj : j = id
  · subst hj
    have held : b.table.isHeld j := by
      by_contra loose
      have dropped : b.drop j = b.release j := if_neg loose
      exact (gone_release k.ledger j).2 (dropped ▸ k.waiting)
    have began : b.hold j = b := by
      simp only [hold, Table.hold_of_isHeld k.ledger.waiters_nodup held]
    rw [began, drop, if_pos held, began]
  · have same : (b.hold id).table.isHeld j = b.table.isHeld j := Table.isHeld_hold_of_ne hj
    unfold drop
    rw [same]
    split
    · rfl
    · exact release_hold b id j

theorem post_hold (b : Bridge σ) (id : InvocationId) (raw : String) :
    (b.hold id).post raw = ((b.post raw).1, (b.post raw).2.hold id) := by
  unfold post
  split
  · exact Prod.ext rfl (resolve_hold b id _ _)
  · rfl
  · rfl
  · rfl

/-- An act of the engine does the same before and after a wait is begun, unless it drops the handle that is
waited for. -/
theorem perform_hold (a : Act) (k : Kept id b (b.perform a).2) :
    (b.hold id).perform a = ((b.perform a).1, (b.perform a).2.hold id) := by
  cases a with
  | signal s => exact Prod.ext rfl (resolve_hold b id _ _)
  | post raw => exact post_hold b id raw
  | invoke source =>
    have other : b.nextId ≠ id := fun same => k.ledger.nextId_not_issued (same ▸ k.issued)
    exact dispatch_hold b other source
  | release j => exact Prod.ext rfl (drop_hold k)
  | ready | initFailed | invokeBlocking | gate | onEngineThread | shutdown => rfl

theorem run_hold (c : Conduct α) (k : Kept id b (b.run c).2) :
    (b.hold id).run c = ((b.run c).1, (b.run c).2.hold id) := by
  induction c generalizing b with
  | done a => rfl
  | act a next ih =>
    have acted : Grows b (b.perform a).2 := .outer (acted_perform b a).outer
    have one := perform_hold a (k.first acted (.run _ (next (b.perform a).1)))
    simp only [run, one]
    exact ih _ (k.rest acted)

theorem built_hold (b : Bridge σ) (id : InvocationId) (r : Except Abort σ) :
    (b.hold id).built r = (b.built r).hold id := by
  rcases r with (f | text) | s <;> rfl

theorem returned_hold (b : Bridge σ) (id : InvocationId) (c : Command) (r : σ × Except Abort Unit) :
    (b.hold id).returned c r = (b.returned c r).hold id := by
  obtain ⟨s, (a | u)⟩ := r
  · exact resolve_hold ({ b with engine := some s }.note (.returned c (.error a))) id c.id _
  · rfl

theorem close_hold (b : Bridge σ) (id : InvocationId) : (b.hold id).close = b.close.hold id := by
  let cleared : Bridge σ := { b with deferred := [], queue := [], phase := .stopped }
  let sent := (b.deferred ++ b.queue).map Command.id
  calc
    (b.hold id).close = ((cleared.hold id).failEach .closed sent).failAll .closed := rfl
    _ = ((cleared.failEach .closed sent).hold id).failAll .closed := by rw [failEach_hold]
    _ = b.close.hold id := failEach_hold _ id .closed _

theorem handOff_hold (e : Engine σ) (rest : Conduct (σ × Except Abort String))
    (k : Kept id b (b.handOff e c rest)) : (b.hold id).handOff e c rest = (b.handOff e c rest).hold id := by
  have wrapped := run_hold rest (k.first (.run b rest) (.evaluated e b c rest))
  have later := k.rest (.run b rest)
  unfold handOff at later ⊢
  rw [wrapped]
  rcases hr : b.run rest with ⟨⟨s, (a | program)⟩, b₁⟩
  · exact returned_hold b₁ id c _
  · simp only [hr] at later ⊢
    have noted : Grows b₁ (b₁.note (.wrapped c)) := .stride (e := e) (.endWrapping b₁ c s program)
    have evaluating := (later.rest noted).first (.run _ (e.evaluate s c.id program))
      (.stride (e := e) (.endEvaluation _ c _))
    have evaluated : ((b₁.hold id).note (.wrapped c)).run (e.evaluate s c.id program) = _ :=
      run_hold _ evaluating
    rw [evaluated]
    exact returned_hold _ id c _

/-- A task of the thread on a bridge where a wait was begun. -/
def Task.hold (id : InvocationId) : Task σ → Task σ
  | .wait => .wait
  | .step b => .step (b.hold id)
  | .build b rest => .build (b.hold id) rest
  | .wrap b c rest => .wrap (b.hold id) c rest

theorem turn_hold (e : Engine σ) (b : Bridge σ) (id : InvocationId) (c : Command) :
    (b.hold id).turn e c = (b.turn e c).hold id := by
  have noted : (b.hold id).note (.taken c) = (b.note (.taken c)).hold id := rfl
  simp only [turn, noted]
  generalize b.note (.taken c) = b
  change (if !b.table.isPending c.id then _ else _) = Task.hold id (if !b.table.isPending c.id then _ else _)
  split
  · rfl
  · have gate : (b.hold id).gate = b.gate := rfl
    have engine : (b.hold id).engine = b.engine := rfl
    rw [gate, engine]
    split
    · exact congrArg Task.step (resolve_hold b id _ _)
    · exact congrArg Task.step (resolve_hold b id _ _)
    · rfl

theorem task_hold (e : Engine σ) (b : Bridge σ) (id : InvocationId) :
    (b.hold id).task e = (b.task e).hold id := by
  have phase : (b.hold id).phase = b.phase := rfl
  have gate : (b.hold id).gate = b.gate := rfl
  have cancelled : (b.hold id).cancelled = b.cancelled := rfl
  have queue : (b.hold id).queue = b.queue := rfl
  have next : (b.hold id).next? = b.next?.map fun n => (n.1, n.2.hold id) := by
    have deferred : (b.hold id).deferred = b.deferred := rfl
    unfold next?
    rw [phase, deferred, queue, cancelled]
    split
    · rfl
    · split <;> rfl
    · rfl
  unfold task
  rw [phase]
  cases b.phase with
  | starting => rfl
  | bootstrapping => rfl
  | parked =>
    have quits : (b.hold id).quits = b.quits := rfl
    simp only [gate, quits, queue]
    split
    · exact congrArg Task.step (close_hold b id)
    · split
      · rfl
      · split <;> rfl
  | draining =>
    simp only [next]
    cases b.next? with
    | none => rfl
    | some n => exact turn_hold e n.2 id n.1
  | serving =>
    simp only [next, cancelled]
    split
    · exact congrArg Task.step (close_hold b id)
    · cases b.next? with
      | none => rfl
      | some n => exact turn_hold e n.2 id n.1
  | stopped => rfl
  | crashed => rfl

theorem tick_hold (h : b.tick e = some b') (k : Kept id b b') : (b.hold id).tick e = some (b'.hold id) := by
  have first := stride_task e b
  unfold tick at h ⊢
  rw [task_hold]
  cases ht : b.task e with
  | wait => simp [ht] at h
  | step b₁ =>
    rw [ht] at h
    exact congrArg (fun b => some (Bridge.hold b id)) (Option.some.inj h)
  | build b₁ rest =>
    rw [ht] at first h
    obtain rfl := Option.some.inj h
    have built : Grows (b₁.run rest).2 ((b₁.run rest).2.built (b₁.run rest).1) := .stride (e := e) (.endBuild _ _)
    have one := run_hold rest ((k.rest (.stride first)).first (.run b₁ rest) built)
    simp only [Task.hold, one]
    exact congrArg some (built_hold _ id _)
  | wrap b₁ c rest =>
    rw [ht] at first h
    obtain rfl := Option.some.inj h
    exact congrArg some (handOff_hold e rest (k.rest (.stride first)))

/-- The engine thread, left to itself, does the same before and after a wait is begun. -/
theorem settle_hold (patience : Nat) (k : Kept id b (b.settle e patience)) :
    (b.hold id).settle e patience = (b.settle e patience).hold id := by
  induction patience generalizing b with
  | zero => rfl
  | succ n ih =>
    unfold settle at k ⊢
    cases ht : b.tick e with
    | none =>
      have rests : (b.hold id).tick e = none := by
        unfold tick at ht ⊢
        rw [task_hold]
        cases hw : b.task e <;> simp_all [Task.hold]
      rw [rests]
    | some b₁ =>
      simp only [ht] at k ⊢
      rw [tick_hold ht (k.first (.tick ht) (.settle e n b₁))]
      exact ih (k.rest (.tick ht))

/-! ## The two calls -/

/-- A wait is what a thread blocks for once the wait is begun. -/
theorem waitTimeout_eq (e : Engine σ) (patience : Nat) (due : Bool) (id : InvocationId) (ms : Nat) (b : Bridge σ) :
    b.waitTimeout e patience due id ms = (b.hold id).await e patience due id ms := by
  unfold waitTimeout await receive poll
  cases (b.hold id).look id with
  | some o => rfl
  | none =>
    dsimp only
    cases ((b.hold id).elapse e patience due).look id <;> rfl

/-- Whoever blocks for an id lets it go in the end. -/
theorem await_releases (e : Engine σ) (patience : Nat) (due : Bool) (id : InvocationId) (ms : Nat) (b : Bridge σ) :
    ∃ b', Grows b b' ∧ (b.await e patience due id ms).2 = b'.release id := by
  have elapsed : Grows b (b.elapse e patience due) := by
    unfold elapse
    split
    · exact (Grows.outer (outer_deadline b)).trans (.settle e patience _)
    · exact .refl b
  unfold await receive
  cases b.look id with
  | some o => exact ⟨b, .refl b, rfl⟩
  | none =>
    refine ⟨b.elapse e patience due, elapsed, ?_⟩
    dsimp only
    cases (b.elapse e patience due).look id <;> rfl

theorem config_dispatch (b : Bridge σ) (source : String) (held : Bool) :
    (b.dispatch source held).2.config = b.config := by
  rcases dispatch_cases b source held with ⟨o, e⟩ | ⟨-, -, e⟩ <;> rw [e] <;> rfl

theorem number_dispatch (b : Bridge σ) (source : String) (held : Bool) :
    (b.dispatch source held).2.number = b.number + 1 := by
  rcases dispatch_cases b source held with ⟨o, e⟩ | ⟨-, -, e⟩ <;> rw [e] <;> rfl

/-- A thread that blocks for an id still holds it once the engine has settled. -/
theorem settle_held (h : Ledger b) (e : Engine σ) (patience : Nat) (source : String) :
    ((b.dispatch source true).2.settle e patience).hold b.nextId = (b.dispatch source true).2.settle e patience := by
  obtain ⟨ledger, still⟩ := (h.dispatch source true).settle (held_dispatch b source) e patience
  simp only [hold, Table.hold_of_isHeld ledger.waiters_nodup still]

theorem invokeBlocking_eq (h : Ledger b) (e : Engine σ) (patience : Nat) (due : Bool) (source : String) (ms : Nat) :
    b.invokeBlocking e patience due .elsewhere source ms =
      (((b.invoke source).2.hold b.nextId).settle e patience).waitTimeout e patience due b.nextId ms := by
  rw [waitTimeout_eq, invoke, ← dispatch_held h, settle_held h]
  rfl

theorem invokeAs_eq (h : Ledger b) (read : Json → Except String α) (e : Engine σ) (patience : Nat) (due : Bool)
    (source : String) : b.invokeAs read e patience due source =
      b.invokeBlockingAs read e patience due .elsewhere source b.config.defaultTimeoutMs := by
  have wait : ((b.dispatch source true).2.settle e patience).waitTimeout e patience due b.nextId
      (b.dispatch source true).2.config.defaultTimeoutMs =
        b.invokeBlocking e patience due .elsewhere source b.config.defaultTimeoutMs := by
    rw [waitTimeout_eq, settle_held h, config_dispatch]
    rfl
  unfold invokeAs invokeBlockingAs
  rw [← wait]
  rfl

/-- Waiting for an outcome that is there takes it. -/
theorem waitTimeout_of_poll (h : b.poll id = (some o, b')) (e : Engine σ) (patience : Nat) (due : Bool) (ms : Nat) :
    b.waitTimeout e patience due id ms = (o, b') := by
  have found : (b.hold id).look id = b.look id := by
    simp only [look, hold, Table.outcome_hold, Table.isPending_hold]
    rfl
  rw [waitTimeout_eq, await, receive, found]
  unfold poll at h
  cases hl : b.look id with
  | some o' =>
    simp only [hl] at h ⊢
    rw [release_hold_self]
    simpa using h
  | none => simp [hl] at h

/-- Fitting a value to a type keeps every failure, and adds that a value does not fit. -/
theorem fit_eq_error_iff (read : Json → Except String α) (o : Outcome) (f : Failure) :
    fit read o = .error f ↔
      o = .error f ∨ ∃ v message, o = .ok v ∧ read v = .error message ∧ f = .typeMismatch message := by
  cases o with
  | error f' => simp [fit]
  | ok v => cases hr : read v <;> simp [fit, hr, eq_comm]

end Bridge

/-- Blocking for the outcome of a source and waiting for it come to the same, at any moment of any run: the
same answer and the same bridge. It makes no difference whether the wait begins at once or when the engine has
settled and the handle is still held. Either way one id is taken, what became of it is answered or the id is named in a
timeout, and nothing is left of it. Typed calls answer the same outcome fitted to their type. On the engine's own thread
a blocking call is refused, and nothing happens. -/
theorem blocking_and_waiting_agree (e : Engine σ) (config : Config) (number : Nat) (vs : List (Move σ))
    (patience : Nat) (due : Bool) (source : String) (ms : Nat) :
    let b := ((Moment.start config number).after e vs).bridge
    let id := b.nextId
    let blocked := b.invokeBlocking e patience due .elsewhere source ms
    let settled := (b.invoke source).2.settle e patience
    ((b.invoke source).1 = id ∧
      (((b.invoke source).2.hold id).settle e patience).waitTimeout e patience due id ms = blocked ∧
      (id ∈ settled.table.waiters.map (·.id) → settled.waitTimeout e patience due id ms = blocked)) ∧
    ((b.invoke source).2.issued = b.issued ++ [id] ∧ (b.invoke source).2.number = b.number + 1 ∧
      b.issued ++ [id] <+: blocked.2.issued ∧ Answered blocked.2 id ms blocked.1 ∧
      ¬ blocked.2.table.isPending id ∧ ∀ w ∈ blocked.2.table.waiters, w.id ≠ id) ∧
    (∀ {α : Type} (read : Json → Except String α),
      b.invokeBlockingAs read e patience due .elsewhere source ms = (fit read blocked.1, blocked.2) ∧
      (let untyped := b.invokeBlocking e patience due .elsewhere source b.config.defaultTimeoutMs
       b.invokeAs read e patience due source = (fit read untyped.1, untyped.2)) ∧
      (∀ o b', settled.poll id = (some o, b') → settled.decode read id = (some (fit read o), b') ∧
        settled.waitTimeout e patience due id ms = (o, b')) ∧
      ∀ o f, fit read o = .error f ↔
        o = .error f ∨ ∃ v message, o = .ok v ∧ read v = .error message ∧ f = .typeMismatch message) ∧
    (b.invokeBlocking e patience due .engineThread source ms = (.error .affinityViolation, b) ∧
      b.perform (.invokeBlocking source ms) = (.error .affinityViolation, b) ∧
      ∀ {α : Type} (read : Json → Except String α),
        b.invokeBlockingAs read e patience due .engineThread source ms = (.error .affinityViolation, b)) := by
  intro b id blocked settled
  have ledger : Ledger b := ledger_after e config number vs
  have same := invokeBlocking_eq ledger e patience due source
  have issued : ∀ held, (b.dispatch source held).2.issued = b.issued ++ [id] :=
    fun held => (ledger.issued_dispatch source held).2
  -- What the thread lets go in the end has been through all that the bridge has.
  obtain ⟨b', grown, left⟩ : ∃ b', Grows (b.dispatch source true).2 b' ∧ blocked.2 = b'.release id := by
    obtain ⟨b', grown, left⟩ := await_releases e patience due id ms ((b.dispatch source true).2.settle e patience)
    exact ⟨b', (Grows.settle e patience _).trans grown, left⟩
  have gone := gone_release (grown.ledger (ledger.dispatch source true)) id
  have released : Grows b' (b'.release id) := .outer (.release b' id)
  refine ⟨⟨rfl, (same ms).symm, ?_⟩, ⟨issued false, number_dispatch b source false, ?_,
    ledger.answered_invokeBlocking e patience due source ms, ?_, ?_⟩, ?_, rfl, rfl, fun read => rfl⟩
  · intro waiting
    have kept : Kept id (b.invoke source).2 settled :=
      ⟨ledger.dispatch source false, issued false ▸ List.mem_append_right _ (List.mem_singleton_self _), waiting⟩
    change _ = b.invokeBlocking e patience due .elsewhere source ms
    rw [same, settle_hold patience kept, waitTimeout_eq, waitTimeout_eq, hold_hold]
  · rw [← issued true, left]
    exact Moment.record_mono (grown.trans released).journal
  · rw [left, Table.isPending_iff]
    exact gone.1
  · rw [left]
    exact fun w hw hi => gone.2 (List.mem_map.2 ⟨w, hw, hi⟩)
  · intro α read
    refine ⟨rfl, ?_, ?_, fit_eq_error_iff read⟩
    · rw [invokeAs_eq ledger]
      rfl
    · intro o b'' found
      exact ⟨by simp [decode, found], waitTimeout_of_poll found e patience due ms⟩

end ScriptHost
