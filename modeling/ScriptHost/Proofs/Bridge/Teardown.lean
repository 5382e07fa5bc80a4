import ScriptHost.Proofs.Bridge.Opening
import ScriptHost.Proofs.Bridge.Calls
/-!
Teardown.

A bridge at rest that is shut down closes all that is pending and gives its engine nothing more
(`shutdown_of_rests`). What is torn down stays so, whoever does what afterwards (`Torn.after`).
-/

namespace ScriptHost

open Bridge

variable {σ : Type} {e : Engine σ} {b b' : Bridge σ} {m m' : Moment σ} {id : InvocationId}

/-- A waiter once all is closed: it keeps what it was given, and is given that the bridge is closed if it was
given nothing. -/
def Waiter.closed (w : Waiter) : Waiter := { w with outcome := some (w.outcome.getD (.error .closed)) }

theorem Waiter.closed_closed (w : Waiter) : w.closed.closed = w.closed := rfl

theorem Waiter.closed_eq_self {w : Waiter} {o : Outcome} (h : w.outcome = some o) : w.closed = w := by
  obtain ⟨id, outcome, held⟩ := w
  cases h
  rfl

namespace Bridge

/-! ## Closing -/

theorem pending_failEach (f : Failure) (ids : List InvocationId) (b : Bridge σ) (h : b.table.pending = ids) :
    (b.failEach f ids).table.pending = [] := by
  induction ids generalizing b with
  | nil => exact h
  | cons id ids ih =>
    apply ih
    rw [pending_resolve, h]
    simp

theorem pending_close (b : Bridge σ) : b.close.table.pending = [] := pending_failEach _ _ _ rfl

/-- Some waiters are given that the bridge is closed, and the others nothing. -/
def ClosesSome (ws ws' : List Waiter) : Prop :=
  ∃ f : Waiter → Waiter, (∀ w, f w = w ∨ f w = w.closed) ∧ ws' = ws.map f

theorem ClosesSome.refl (ws : List Waiter) : ClosesSome ws ws :=
  ⟨id, fun _ => .inl rfl, (List.map_id ws).symm⟩

theorem ClosesSome.trans {ws ws' ws'' : List Waiter} (h : ClosesSome ws ws') (h' : ClosesSome ws' ws'') :
    ClosesSome ws ws'' := by
  obtain ⟨f, hf, rfl⟩ := h
  obtain ⟨g, hg, rfl⟩ := h'
  refine ⟨g ∘ f, ?_, List.map_map⟩
  intro w
  rcases hf w with same | closed
  · simpa [same] using hg w
  · right
    rcases hg w.closed with same' | closed'
    · simp [closed, same']
    · simp [closed, closed', Waiter.closed_closed]

theorem closesSome_resolve (h : Ledger b) (id : InvocationId) :
    ClosesSome b.table.waiters (b.resolve id (.error .closed)).table.waiters := by
  by_cases hp : id ∈ b.table.pending
  · refine ⟨fun w => if w.id = id ∧ w.outcome = none then w.closed else w, ?_, ?_⟩
    · intro w
      dsimp only
      split <;> simp
    · refine (Table.waiters_resolve h.waiters_nodup hp).trans (List.map_congr_left ?_)
      intro w hw
      by_cases hi : w.id = id
      · have unresolved : w.outcome = none := h.not_given_of_pending hw (hi ▸ hp)
        simp [hi, unresolved, Waiter.closed]
      · simp [hi]
  · rw [resolve_of_not_pending hp]
    exact .refl _

theorem closesSome_close (h : Ledger b) : Ledger b.close ∧ ClosesSome b.table.waiters b.close.table.waiters := by
  refine close_keeps (I := fun b' => Ledger b' ∧ ClosesSome b.table.waiters b'.table.waiters) ?_ b ?_
  · rintro b' id ⟨ledger, closes⟩
    exact ⟨ledger.resolve id _, closes.trans (closesSome_resolve ledger id)⟩
  · exact ⟨h.frame rfl (Nat.le_refl _) rfl rfl rfl rfl rfl, .refl _⟩

theorem waiters_close (h : Ledger b) : b.close.table.waiters = b.table.waiters.map Waiter.closed := by
  obtain ⟨ledger, f, hf, hw⟩ := closesSome_close h
  rw [hw]
  apply List.map_congr_left
  intro w mem
  -- In the end every waiter has an outcome, so that those left as they were had one before.
  rcases hf w with same | closed
  · have given : (f w).outcome ≠ none := by
      intro none_yet
      have := ledger.pending_of_not_given (hw ▸ List.mem_map_of_mem mem) none_yet
      simp [pending_close] at this
    rw [same] at given ⊢
    obtain ⟨o, ho⟩ := Option.ne_none_iff_exists'.1 given
    exact (Waiter.closed_eq_self ho).symm
  · exact closed

theorem close_frame (b : Bridge σ) : b.close.phase = .stopped ∧ b.close.cancelled = b.cancelled ∧
    b.close.gate = b.gate := by
  refine close_keeps (I := fun b' => b'.phase = .stopped ∧ b'.cancelled = b.cancelled ∧ b'.gate = b.gate) ?_ b
    ⟨rfl, rfl, rfl⟩
  intro b' id h
  exact h

end Bridge

/-! ## After the end -/

/-- The engine thread has ended. -/
structure Gone (m : Moment σ) : Prop where
  idle : m.work = .idle
  ended : m.bridge.phase.isRunning = false

/-- The engine thread has ended and left nothing pending. -/
structure Torn (m : Moment σ) : Prop where
  idle : m.work = .idle
  stopped : m.bridge.phase = .stopped
  cancelled : m.bridge.cancelled
  none_pending : m.bridge.table.pending = []

namespace Bridge

/-- Where no thread takes commands, nothing gets pending that was not. -/
theorem pending_outer_of_ended (ho : b.Outer b') (ended : b.phase.isRunning = false) :
    b'.table.pending ⊆ b.table.pending := by
  cases ho with
  | dispatch source held =>
    rcases dispatch_cases b source held with ⟨o, e⟩ | ⟨-, running, -⟩
    · have entered : (b.enter held).table.pending = b.table.pending.erase b.nextId ++ [b.nextId] := rfl
      rw [e, pending_resolve, entered, List.erase_append]
      split
      · rename_i twice
        have known : [b.nextId] ⊆ b.table.pending := by simpa using List.mem_of_mem_erase twice
        exact List.append_subset.2 ⟨List.Subset.trans List.erase_subset List.erase_subset, known⟩
      · simpa using List.erase_subset
    · simp [ended] at running
  | resolve id o =>
    rw [pending_resolve]
    exact List.erase_subset
  | release id =>
    simp only [release, noteIf, Table.release]
    split
    · exact List.erase_subset
    · exact List.Subset.refl _
  | same | hold | openGate | cancel | pass | elsewhere | share => exact List.Subset.refl _

theorem ended_of_stopped (h : b.phase = .stopped) : b.phase.isRunning = false := by
  rw [h]
  rfl

theorem settle_of_ended (h : b.phase.isRunning = false) (e : Engine σ) (patience : Nat) :
    b.settle e patience = b := by
  have waits : b.tick e = none := by
    cases hp : b.phase with
    | stopped | crashed => simp [tick, task, hp]
    | _ => simp [hp, Phase.isRunning] at h
  cases patience with
  | zero => rfl
  | succ n => simp [settle, waits]

theorem cancelled_outer (ho : b.Outer b') (h : b.cancelled) : b'.cancelled := by
  cases ho with
  | dispatch source held =>
    rcases dispatch_cases b source held with ⟨o, e⟩ | ⟨-, -, e⟩ <;> rw [e] <;> exact h
  | cancel => rfl
  | same | resolve | release | hold | openGate | pass | elsewhere | share => exact h

end Bridge

namespace Gone

theorem outer (h : Gone m) (ho : m.bridge.Outer b) : Gone ⟨b, m.work⟩ where
  idle := h.idle
  ended := (queues_outer ho).1 ▸ h.ended

/-- A thread that has ended does nothing. -/
theorem stride (hs : Stride e m m') (h : Gone m) : m' = m := by
  obtain ⟨b, work⟩ := m
  obtain ⟨rfl, ended⟩ := h
  change b.phase.isRunning = false at ended
  have not_taking : ∀ {c b'}, b.next? ≠ some (c, b') := by
    intro c b' hn
    have running := Phase.isRunning_of_isTaking (taking_of_next? hn)
    simp [ended] at running
  cases hs with
  | rest => rfl
  | beginBuild hp | park hp | serve hp | defer hp => simp [hp, Phase.isRunning] at ended
  | drain hp => rcases hp with hp | hp <;> simp [hp, Phase.isRunning] at ended
  | close hp => rcases hp with hp | hp <;> simp [hp, Phase.isRunning] at ended
  | skip hn | refuse hn | handOver hn => exact absurd hn not_taking

/-- A thread that has ended does not come back, and nothing gets pending any more. -/
theorem after (h : Gone m) (e : Engine σ) (ws : List (Move σ)) :
    Gone (m.after e ws) ∧ (m.after e ws).bridge.table.pending ⊆ m.bridge.table.pending := by
  refine Moment.after_keeps (I := fun m' => Gone m' ∧ m'.bridge.table.pending ⊆ m.bridge.table.pending) ?_ ?_
    ⟨h, List.Subset.refl _⟩ ws
  · rintro m' b ho ⟨gone, among⟩
    exact ⟨gone.outer ho, List.Subset.trans (pending_outer_of_ended ho gone.ended) among⟩
  · rintro m' m'' hs ⟨gone, among⟩
    rw [gone.stride hs]
    exact ⟨gone, among⟩

theorem alone (h : Gone m) (e : Engine σ) (n : Nat) : m.after e (Moment.alone n) = m := by
  induction n with
  | zero => rfl
  | succ n ih =>
    have rests : m.step e .advance = m := h.stride (Moment.stride_advance e m)
    rw [Moment.alone, List.replicate_succ, Moment.after_cons, rests]
    exact ih

end Gone

/-- The engine thread has crashed. -/
structure Crashed (m : Moment σ) : Prop where
  idle : m.work = .idle
  crashed : m.bridge.phase = .crashed

namespace Crashed

theorem gone (h : Crashed m) : Gone m where
  idle := h.idle
  ended := by
    rw [h.crashed]
    rfl

theorem outer (h : Crashed m) (ho : m.bridge.Outer b) : Crashed ⟨b, m.work⟩ where
  idle := h.idle
  crashed := (queues_outer ho).1.trans h.crashed

theorem after (h : Crashed m) (e : Engine σ) (ws : List (Move σ)) : Crashed (m.after e ws) := by
  refine Moment.after_keeps (fun _ _ ho crashed => crashed.outer ho) ?_ h ws
  intro m m' hs crashed
  rw [crashed.gone.stride hs]
  exact crashed

end Crashed

/-- A thread crashes where its factory is done, and is in the middle of nothing then. -/
theorem crashed_of_phase (e : Engine σ) (config : Config) (number : Nat) (vs : List (Move σ))
    (h : ((Moment.start config number).after e vs).bridge.phase = .crashed) :
    Crashed ((Moment.start config number).after e vs) := by
  refine Moment.after_keeps (I := fun m : Moment σ => m.bridge.phase = .crashed → Crashed m) ?_ ?_
    (fun starting => by cases starting) vs h
  · intro m b ho crashes crashed
    exact (crashes ((queues_outer ho).1 ▸ crashed)).outer ho
  · intro m m' hs crashes crashed
    by_cases before : m.bridge.phase = .crashed
    · rw [(crashes before).gone.stride hs]
      exact crashes before
    · refine ⟨?_, crashed⟩
      cases hs with
      | rest | beginBuild | endWrapping => exact absurd crashed before
      | actInBuild ha | actInWrapping ha | actInEvaluation ha =>
        exact absurd ((queues_outer ha.outer).1 ▸ crashed) before
      | handOver hn => exact absurd ((next?_phase hn).symm.trans crashed) before
      | endBuild | drain | park | defer | serve | close | skip | refuse | failWrapping | endEvaluation => rfl

theorem alive_before {e : Engine σ} {config : Config} {number : Nat} {vs : List (Move σ)} (ws : List (Move σ))
    (h : ((Moment.start config number).after e (vs ++ ws)).bridge.phase ≠ .crashed) :
    ((Moment.start config number).after e vs).bridge.phase ≠ .crashed := by
  intro crashed
  rw [Moment.after_append] at h
  exact h ((crashed_of_phase e config number vs crashed).after e ws).crashed

namespace Torn

theorem gone (h : Torn m) : Gone m := ⟨h.idle, ended_of_stopped h.stopped⟩

theorem outer (h : Torn m) (ho : m.bridge.Outer b) : Torn ⟨b, m.work⟩ where
  idle := h.idle
  stopped := (queues_outer ho).1.trans h.stopped
  cancelled := cancelled_outer ho h.cancelled
  none_pending := by
    have among := pending_outer_of_ended ho h.gone.ended
    rwa [h.none_pending, List.subset_nil] at among

/-- What is torn down stays so, and the engine gets nothing more. -/
theorem after (h : Torn m) (e : Engine σ) (ws : List (Move σ)) :
    Torn (m.after e ws) ∧ (m.after e ws).bridge.handed = m.bridge.handed ∧
      (m.after e ws).bridge.wrapped = m.bridge.wrapped := by
  refine Moment.after_keeps (I := fun m' => Torn m' ∧ m'.bridge.handed = m.bridge.handed ∧
    m'.bridge.wrapped = m.bridge.wrapped) ?_ ?_ ⟨h, rfl, rfl⟩ ws
  · rintro m' b ho ⟨torn, handed, wrapped⟩
    exact ⟨torn.outer ho, (record_outer Event.handed_ofWork ho).trans handed,
      (record_outer Event.wrapped_ofWork ho).trans wrapped⟩
  · rintro m' m'' hs ⟨torn, kept⟩
    rw [torn.gone.stride hs]
    exact ⟨torn, kept⟩

end Torn

/-! ## How threads end -/

/-- What the factory comes to is recorded where it ends, and nowhere else. -/
theorem factory_stride (hs : Stride e m m') : m'.bridge.factory = m.bridge.factory ∨
    ∃ b r, m = ⟨b, .building (.done r)⟩ ∧ m' = ⟨b.built r, .idle⟩ := by
  cases hs with
  | rest | beginBuild | drain | park | defer | serve => exact .inl rfl
  | actInBuild ha | actInWrapping ha | actInEvaluation ha => exact .inl (record_outer Event.built_ofWork ha.outer)
  | endBuild b r => exact .inr ⟨b, r, rfl, rfl⟩
  | close => exact .inl (record_close Event.built_ofWork)
  | skip hn | handOver hn => exact .inl (by simp [record_next _ hn])
  | refuse hn => exact .inl (by simp [record_next _ hn])
  | failWrapping b c s a => exact .inl (by simp [record_returned Event.built_ofWork])
  | endWrapping b c => exact .inl (record_note_aside (by rfl) b)
  | endEvaluation b c r => exact .inl (by simp [record_returned Event.built_ofWork])

namespace Bridge

/-- The settings stay, and time does not go back. -/
theorem clock_outer (ho : b.Outer b') : b'.config = b.config ∧ b.clock ≤ b'.clock := by
  cases ho with
  | dispatch source held =>
    rcases dispatch_cases b source held with ⟨o, e⟩ | ⟨-, -, e⟩ <;> rw [e] <;> exact ⟨rfl, Nat.le_refl _⟩
  | pass ms => exact ⟨rfl, Nat.le_add_right _ _⟩
  | same | resolve | release | hold | openGate | cancel | elsewhere | share => exact ⟨rfl, Nat.le_refl _⟩

/-- What cannot be told cannot be told later, either. -/
theorem canWait_outer (ho : b.Outer b') (h : b.canWait = false) : b'.canWait = false := by
  obtain ⟨config, clock⟩ := clock_outer ho
  simp only [canWait, decide_eq_false_iff_not, Nat.not_lt] at h ⊢
  rw [config]
  omega

theorem clock_acted (ha : b.Acted b') : b'.config = b.config ∧ b'.clock = b.clock := by
  cases ha with
  | dispatch source =>
    rcases dispatch_cases b source false with ⟨o, e⟩ | ⟨-, -, e⟩ <;> rw [e] <;> exact ⟨rfl, rfl⟩
  | drop id =>
    unfold drop
    split <;> exact ⟨rfl, rfl⟩
  | same | resolve | openGate | cancel => exact ⟨rfl, rfl⟩

end Bridge

/-- The thread's own moves take no time: time passes by moves of its own. -/
theorem clock_stride (hs : Stride e m m') :
    m'.bridge.config = m.bridge.config ∧ m'.bridge.clock = m.bridge.clock := by
  cases hs with
  | rest | beginBuild | drain | park | defer | serve | endWrapping => exact ⟨rfl, rfl⟩
  | actInBuild ha | actInWrapping ha | actInEvaluation ha => exact clock_acted ha
  | endBuild b r => rcases r with (f | text) | s <;> exact ⟨rfl, rfl⟩
  | @close b =>
    exact close_keeps (I := fun b' => b'.config = b.config ∧ b'.clock = b.clock) (fun _ _ h => h) b ⟨rfl, rfl⟩
  | skip hn | refuse hn | handOver hn =>
    rw [next?_eq hn]
    exact ⟨rfl, rfl⟩
  | failWrapping b c s a => exact ⟨rfl, rfl⟩
  | endEvaluation b c r =>
    obtain ⟨s, (a | u)⟩ := r <;> exact ⟨rfl, rfl⟩

theorem canWait_alone (e : Engine σ) (m : Moment σ) (n : Nat) :
    (m.after e (Moment.alone n)).bridge.canWait = m.bridge.canWait := by
  induction n generalizing m with
  | zero => rfl
  | succ n ih =>
    obtain ⟨config, clock⟩ := clock_stride (Moment.stride_advance e m)
    refine (ih (m.advance e)).trans ?_
    rw [canWait, config, clock, canWait]

/-- How a thread that takes no commands has ended: it closed down when it was asked to; or it crashed, because
the factory panicked, or because it could not tell when the gate opens by itself. -/
structure Ended (b : Bridge σ) : Prop where
  closed : b.phase = .stopped → b.cancelled ∧ b.table.pending = []
  crashed : b.phase = .crashed → (∃ text, .error (.panicked text) ∈ b.factory) ∨ b.canWait = false

namespace Ended

theorem outer (h : Ended b) (ho : b.Outer b') : Ended b' := by
  have phase := (queues_outer ho).1
  constructor
  · intro hs
    rw [phase] at hs
    obtain ⟨cancelled, none_pending⟩ := h.closed hs
    have among := pending_outer_of_ended ho (ended_of_stopped hs)
    rw [none_pending, List.subset_nil] at among
    exact ⟨cancelled_outer ho cancelled, among⟩
  · intro hc
    have factory : b'.factory = b.factory := record_outer Event.built_ofWork ho
    exact factory ▸ (h.crashed (phase ▸ hc)).imp_right (canWait_outer ho)

theorem of_running (h : b.phase.isRunning) : Ended b := by
  constructor
  · intro hs
    simp [hs, Phase.isRunning] at h
  · intro hc
    simp [hc, Phase.isRunning] at h

theorem built (b : Bridge σ) (r : Except Abort σ) : Ended (b.built r) := by
  have factory : (b.built r).factory = b.factory ++ [r.map fun _ => ()] := record_built Event.built_ofWork r
  have waits : (b.built r).canWait = b.canWait := by
    rcases r with (f | text) | s <;> rfl
  rcases built_turns b r with ⟨-, -, waiting, -⟩ | ⟨why, crashed, -⟩
  · exact of_running (by rw [waiting]; rfl)
  · constructor
    · intro stopped
      simp [crashed] at stopped
    · intro _
      rcases why with endless | ⟨text, rfl⟩
      · exact .inr (waits.trans endless)
      · exact .inl ⟨text, by simp [factory, Except.map]⟩

theorem frame (h : Ended b) (hp : b'.phase = b.phase) (hc : b'.cancelled = b.cancelled)
    (ht : b'.table = b.table) (hf : b'.factory = b.factory) (hw : b'.canWait = b.canWait) : Ended b' := by
  constructor
  · rw [hp, hc, ht]
    exact h.closed
  · rw [hp, hf, hw]
    exact h.crashed

theorem returned (h : Ended b) (c : Command) (r : σ × Except Abort Unit) : Ended (b.returned c r) := by
  have noted : ∀ s u, Ended ({ b with engine := s }.note (.returned c u)) :=
    fun s u => h.frame rfl rfl rfl (record_note_aside (by rfl) _) rfl
  obtain ⟨s, (a | u)⟩ := r
  · exact (noted (some s) (.error a)).outer (.resolve _ _ _)
  · exact noted (some s) (.ok u)

theorem stride (hs : Stride e m m') (h : Ended m.bridge) : Ended m'.bridge := by
  cases hs with
  | rest | beginBuild => exact h
  | actInBuild ha | actInWrapping ha | actInEvaluation ha => exact h.outer ha.outer
  | endBuild b r => exact built b r
  | drain | park | defer | serve => exact of_running rfl
  | @close b hp hc =>
    obtain ⟨stopped, cancelled, -⟩ := close_frame b
    constructor
    · intro _
      exact ⟨cancelled ▸ hc, pending_close b⟩
    · intro crashed
      simp [stopped] at crashed
  | skip hn | refuse hn | handOver hn =>
    apply of_running
    have running := Phase.isRunning_of_isTaking (taking_of_next? hn)
    rw [next?_eq hn]
    exact running
  | failWrapping b c s a => exact returned (b := b) h c (s, .error a)
  | endWrapping b c s program => exact frame (b := b) h rfl rfl rfl (record_note_aside (by rfl) b) rfl
  | endEvaluation b c r => exact returned (b := b) h c r

end Ended

theorem ended_after (e : Engine σ) (config : Config) (number : Nat) (vs : List (Move σ)) :
    Ended ((Moment.start config number).after e vs).bridge :=
  Moment.after_keeps (I := fun m => Ended m.bridge) (fun _ _ ho h => h.outer ho) (fun _ _ hs h => .stride hs h)
    (.of_running rfl) vs

/-! ## Shutdown -/

/-- The engine thread has nothing left to do, and has not crashed. -/
structure Rests (e : Engine σ) (m : Moment σ) : Prop where
  idle : m.work = .idle
  settled : m.bridge.isSettled e
  alive : m.bridge.phase ≠ .crashed

namespace Bridge

theorem settled_iff : b.isSettled e = true ↔ b.task e = .wait := by
  unfold isSettled tick
  cases b.task e <;> simp

theorem cancel_of_cancelled (h : b.cancelled) : b.cancel = b := by
  obtain ⟨config, table, gate, phase, deferred, queue, cancelled, engine, journal, number⟩ := b
  cases h
  rfl

theorem turn_ne_wait (e : Engine σ) (b : Bridge σ) (c : Command) : b.turn e c ≠ .wait := by
  simp only [turn]
  split
  · simp
  · split <;> simp

/-- A thread that waits has stopped, or ends when it is asked to. -/
theorem task_cancel_of_settled (hs : b.isSettled e) (alive : b.phase ≠ .crashed) :
    b.phase = .stopped ∨ b.phase.isRunning ∧ b.cancel.task e = .step b.cancel.close := by
  rw [settled_iff] at hs
  cases hp : b.phase with
  | starting => simp [task, hp] at hs
  | bootstrapping => simp [task, hp] at hs
  | parked =>
    cases hg : b.gate with
    | ready r => cases hq : b.quits <;> simp [task, hp, hg, hq, Gate.isReady] at hs
    | initializing => exact .inr ⟨rfl, by simp [task, cancel, quits, hp, hg]⟩
  | draining =>
    simp only [task, hp] at hs
    split at hs
    · exact absurd hs (turn_ne_wait _ _ _)
    · cases hs
  | serving => exact .inr ⟨rfl, by simp [task, cancel, hp]⟩
  | stopped => exact .inl rfl
  | crashed => exact absurd hp alive

end Bridge

/-- A thread whose factory did not panic is there, as long as it can tell when the gate opens by itself. -/
theorem alive_of_canWait (e : Engine σ) (config : Config) (number : Nat) (vs : List (Move σ))
    (returned : ∀ text, .error (.panicked text) ∉ ((Moment.start config number).after e vs).bridge.factory)
    (waits : ((Moment.start config number).after e vs).bridge.canWait) :
    ((Moment.start config number).after e vs).bridge.phase ≠ .crashed := by
  intro crashed
  rcases (ended_after e config number vs).crashed crashed with ⟨text, panicked⟩ | endless
  · exact returned text panicked
  · simp [waits] at endless

/-- The bridge after its thread's end is the same however the end was asked for. -/
theorem shutdown_of_rests (rests : Rests e m) (ended : Ended m.bridge) (patience : Nat) :
    m.bridge.phase = .stopped ∧ m.bridge.shutdown e (patience + 1) = m.bridge ∨
      m.bridge.phase.isRunning ∧ m.bridge.shutdown e (patience + 1) = m.bridge.cancel.close := by
  rcases task_cancel_of_settled rests.settled rests.alive with stopped | ⟨running, closes⟩
  · refine .inl ⟨stopped, ?_⟩
    rw [shutdown, cancel_of_cancelled (ended.closed stopped).1, settle_of_ended (ended_of_stopped stopped)]
  · refine .inr ⟨running, ?_⟩
    have ticks : m.bridge.cancel.tick e = some m.bridge.cancel.close := by
      rw [tick, closes]
    rw [shutdown, settle, ticks]
    exact settle_of_ended (ended_of_stopped (close_frame m.bridge.cancel).1) e patience

theorem gone_of_stopped (h : b.phase = .stopped) : Gone (⟨b, .idle⟩ : Moment σ) := ⟨rfl, ended_of_stopped h⟩

/-- A bridge that is dropped comes to the same as one that is shut down, at the end of its thread. -/
theorem drop_of_rests (rests : Rests e m) (ended : Ended m.bridge) (patience n : Nat) :
    (m.step e (.act .shutdown)).after e (Moment.alone (n + 1)) = ⟨m.bridge.shutdown e (patience + 1), .idle⟩ := by
  have asked : m.step e (.act .shutdown) = ⟨m.bridge.cancel, .idle⟩ := by
    rw [Moment.step_of_ne e m (v := .act .shutdown) nofun, rests.idle]
    rfl
  rw [asked]
  rcases shutdown_of_rests rests ended patience with ⟨stopped, same⟩ | ⟨running, closed⟩
  · rw [same, cancel_of_cancelled (ended.closed stopped).1]
    exact (gone_of_stopped stopped).alone e (n + 1)
  · have first : (⟨m.bridge.cancel, .idle⟩ : Moment σ).step e .advance = ⟨m.bridge.cancel.close, .idle⟩ := by
      refine (Moment.advance_idle e m.bridge.cancel).trans ?_
      rcases task_cancel_of_settled rests.settled rests.alive with stopped | ⟨-, closes⟩
      · simp [stopped, Phase.isRunning] at running
      · rw [closes]
        rfl
    rw [closed, Moment.alone, List.replicate_succ, Moment.after_cons, first]
    exact (gone_of_stopped (close_frame m.bridge.cancel).1).alone e n

/-! ## Calls where the thread has ended -/

/-- Whoever invokes a source fails at once, and leaves what is pending as it is. -/
structure Rejects (e : Engine σ) (b : Bridge σ) (source : String) (f : Failure) : Prop where
  invoked : ((b.invoke source).2.poll (b.invoke source).1).1 = some (.error f) ∧
    (b.invoke source).2.table.pending = b.table.pending
  blocked : ∀ patience due ms, (b.invokeBlocking e patience due .elsewhere source ms).1 = .error f ∧
    (b.invokeBlocking e patience due .elsewhere source ms).2.table.pending = b.table.pending

/-- Whoever invokes a source fails at once, and leaves nothing pending. -/
structure Fails (e : Engine σ) (b : Bridge σ) (source : String) (f : Failure) : Prop where
  invoked : ((b.invoke source).2.poll (b.invoke source).1).1 = some (.error f) ∧ (b.invoke source).2.pending = 0
  blocked : ∀ patience due ms, (b.invokeBlocking e patience due .elsewhere source ms).1 = .error f ∧
    (b.invokeBlocking e patience due .elsewhere source ms).2.pending = 0

namespace Bridge

/-- Where no thread takes commands, what is dispatched is refused. -/
theorem dispatch_of_ended (h : b.phase.isRunning = false) (source : String) (held : Bool) :
    (b.dispatch source held).2 =
      (b.enter held).resolve b.nextId (.error ((encodingFault? source).getD .notRunning)) := by
  have ended : (b.enter held).phase.isRunning = false := h
  simp only [dispatch, send]
  cases encodingFault? source with
  | some f => rfl
  | none => simp [ended]

/-- A waiter that comes now is given at once why it comes in vain. -/
theorem look_dispatch_of_ended (h : b.phase.isRunning = false) (l : Ledger b) (source : String) (held : Bool) :
    (b.dispatch source held).2.look b.nextId = some (.error ((encodingFault? source).getD .notRunning)) := by
  have later := l.dispatch source held
  have entered : b.nextId ∈ (b.enter held).table.pending := by
    simp [enter, note, Table.register]
  have waits : b.nextId ∈ (b.dispatch source held).2.table.waiters.map (·.id) := by
    have ids : ((b.enter held).resolve b.nextId
        (.error ((encodingFault? source).getD .notRunning))).table.waiters.map (·.id) =
        (b.enter held).table.waiters.map (·.id) := Table.ids_resolve
    rw [dispatch_of_ended h, ids]
    simp [enter, note, Table.register]
  obtain ⟨w, hw, hi⟩ := List.mem_map.1 waits
  rw [← hi, later.look_eq hw, later.given_iff w hw, hi, dispatch_of_ended h]
  simp [entered]

theorem pending_dispatch_of_ended (h : b.phase.isRunning = false) (l : Ledger b) (source : String) (held : Bool) :
    (b.dispatch source held).2.table.pending = b.table.pending := by
  have new : b.nextId ∉ b.table.pending := fun hp => l.nextId_not_issued ((l.pending_iff _).1 hp).1
  have entered : (b.enter held).table.pending = b.table.pending ++ [b.nextId] := Table.pending_register new held
  rw [dispatch_of_ended h, pending_resolve, entered, List.erase_append_right _ new]
  simp

theorem rejects_of_ended (h : b.phase.isRunning = false) (l : Ledger b) (e : Engine σ) (source : String) :
    Rejects e b source ((encodingFault? source).getD .notRunning) := by
  constructor
  · have found := look_dispatch_of_ended h l source false
    constructor
    · simp only [invoke, poll]
      rw [show (b.dispatch source).1 = b.nextId from rfl, found]
    · exact pending_dispatch_of_ended h l source false
  · intro patience due ms
    have found := look_dispatch_of_ended h l source true
    have same := pending_dispatch_of_ended h l source true
    have ended : (b.dispatch source true).2.phase.isRunning = false := (queues_outer (.dispatch b source true)).1 ▸ h
    have call : b.invokeBlocking e patience due .elsewhere source ms =
        (.error ((encodingFault? source).getD .notRunning), (b.dispatch source true).2.release b.nextId) := by
      simp only [invokeBlocking, settle_of_ended ended, await, receive]
      rw [show (b.dispatch source true).1 = b.nextId from rfl, found]
    have let_go : b.nextId ∉ (b.dispatch source true).2.table.pending := by
      rw [same]
      exact fun hp => l.nextId_not_issued ((l.pending_iff _).1 hp).1
    have released : ((b.dispatch source true).2.release b.nextId).table.pending =
        (b.dispatch source true).2.table.pending.erase b.nextId :=
      Table.pending_release (l.dispatch source true).waiting_of_pending
    rw [call]
    refine ⟨rfl, ?_⟩
    rw [released, List.erase_of_not_mem let_go, same]

end Bridge

namespace Torn

theorem fails (t : Torn m) (l : Ledger m.bridge) (e : Engine σ) (source : String) :
    Fails e m.bridge source ((encodingFault? source).getD .notRunning) := by
  have rejects := rejects_of_ended t.gone.ended l e source
  have counts : ∀ b : Bridge σ, b.table.pending = m.bridge.table.pending → b.pending = 0 :=
    fun b same => congrArg List.length (same.trans t.none_pending)
  constructor
  · exact ⟨rejects.invoked.1, counts _ rejects.invoked.2⟩
  · intro patience due ms
    obtain ⟨failed, same⟩ := rejects.blocked patience due ms
    exact ⟨failed, counts _ same⟩

theorem signal (t : Torn m) (s : Signal) : m.bridge.signal s = (.unmatched, m.bridge) := by
  have absent : s.id ∉ m.bridge.table.pending := by simp [t.none_pending]
  simp [Bridge.signal, absent, resolve_of_not_pending]

theorem shutdown (t : Torn m) (e : Engine σ) (patience : Nat) : m.bridge.shutdown e patience = m.bridge := by
  rw [Bridge.shutdown, cancel_of_cancelled t.cancelled, settle_of_ended t.gone.ended]

end Torn

/-- Shutting down a bridge at rest closes its waiters and leaves the gate and the engine alone. -/
theorem torn_of_rests (rests : Rests e m) (ledger : Ledger m.bridge) (ended : Ended m.bridge) (patience : Nat) :
    let closed := m.bridge.shutdown e (patience + 1)
    Torn (⟨closed, .idle⟩ : Moment σ) ∧ closed.table.waiters = m.bridge.table.waiters.map Waiter.closed ∧
      closed.gate = m.bridge.gate ∧ closed.handed = m.bridge.handed ∧ closed.wrapped = m.bridge.wrapped := by
  intro closed
  rcases shutdown_of_rests rests ended patience with ⟨stopped, same⟩ | ⟨running, same⟩
  · obtain ⟨cancelled, none_pending⟩ := ended.closed stopped
    change closed = m.bridge at same
    rw [same]
    refine ⟨⟨rfl, stopped, cancelled, none_pending⟩, ?_, rfl, rfl, rfl⟩
    refine (List.map_id' _).symm.trans (List.map_congr_left ?_)
    intro w hw
    have given : w.outcome ≠ none := by
      intro none_yet
      have := ledger.pending_of_not_given hw none_yet
      simp [none_pending] at this
    obtain ⟨o, ho⟩ := Option.ne_none_iff_exists'.1 given
    exact (Waiter.closed_eq_self ho).symm
  · change closed = m.bridge.cancel.close at same
    rw [same]
    obtain ⟨stopped, cancelled, gate⟩ := close_frame m.bridge.cancel
    exact ⟨⟨rfl, stopped, cancelled, pending_close _⟩, waiters_close (ledger.outer (.cancel m.bridge)), gate,
      record_close Event.handed_ofWork, record_close Event.wrapped_ofWork⟩

/-- What is held back was not given to the engine. -/
theorem not_handed_of_deferred (e : Engine σ) (config : Config) (number : Nat) (vs : List (Move σ)) {c : Command}
    (hc : c ∈ ((Moment.start config number).after e vs).bridge.deferred) :
    c ∉ ((Moment.start config number).after e vs).bridge.handed := by
  intro given
  obtain ⟨queues, -⟩ := queues_after e config number vs
  have running : ((Moment.start config number).after e vs).bridge.phase.isRunning := by
    by_contra stopped
    have none_left := (queues.emptied (Bool.eq_false_iff.2 stopped)).1
    exact List.not_mem_nil (none_left ▸ hc)
  have order := queues.in_order running
  have nodup := queues.sent_nodup (ledger_after e config number vs)
  rw [order, List.append_assoc] at nodup
  have taken := (Moment.handed_taken_after e config number vs).subset given
  exact List.disjoint_of_nodup_append nodup taken (List.mem_append_left _ hc)

/-- A source that waits for a gate that never opens. -/
def waitingRun : List (Move Unit) := Moment.alone 3 ++ [.act (.invoke "x")] ++ Moment.alone 2

end ScriptHost
