import ScriptHost.Proofs.Bridge.Progress
import ScriptHost.Proofs.Bridge.Answers
/-!
Asking a thread to end.

A thread that is asked to end finishes what it is at, and takes nothing more from its queue
(`Moment.turns_of_cancelled`). But it looks at the request only where it takes from the queue or waits for
the gate: once it runs what it held back, it runs all of that first. What it leaves is closed
(`Moment.leaves_after`).
-/

namespace ScriptHost

open Bridge

variable {σ : Type} {e : Engine σ} {b b' : Bridge σ} {m m' : Moment σ} {c : Command} {id : InvocationId}
  {o : Outcome}

/-! ## What happens in a run -/

/-- The id that the engine thread's next move signals. -/
def Work.signalled? : Work σ → Option InvocationId
  | building (.act a _) | wrapping _ (.act a _) | evaluating _ (.act a _) => a.signalled?
  | _ => none

namespace Moment

/-- The id that a move signals, the engine's own signals among them. -/
def signalled? (m : Moment σ) : Move σ → Option InvocationId
  | .advance => m.work.signalled?
  | v => v.signalled?

/-- The ids that are signalled in a run. -/
def signalled (e : Engine σ) (m : Moment σ) : List (Move σ) → List InvocationId
  | [] => []
  | v :: vs => (m.signalled? v).toList ++ (m.step e v).signalled e vs

/-- The command whose turn a move is. -/
def taken? (m : Moment σ) : Move σ → Option Command
  | .advance => m.turn?
  | _ => none

/-- The commands whose turns come in a run. -/
def turns (e : Engine σ) (m : Moment σ) : List (Move σ) → List Command
  | [] => []
  | v :: vs => (m.taken? v).toList ++ (m.step e v).turns e vs

theorem taken?_of_ne {v : Move σ} (hv : v ≠ .advance) : m.taken? v = none := by
  cases v with
  | advance => exact absurd rfl hv
  | _ => rfl

/-- Turns come one by one, and the engine gets the command or not. -/
theorem taken_step (e : Engine σ) (m : Moment σ) (v : Move σ) :
    (m.step e v).bridge.taken = m.bridge.taken ++ (m.taken? v).toList ∧
      ∃ given, given.Sublist (m.taken? v).toList ∧ (m.step e v).bridge.handed = m.bridge.handed ++ given := by
  by_cases hv : v = .advance
  · subst hv
    change (m.advance e).bridge.taken = m.bridge.taken ++ m.turn?.toList ∧
      ∃ given, given.Sublist m.turn?.toList ∧ (m.advance e).bridge.handed = m.bridge.handed ++ given
    cases ht : m.turn? with
    | none =>
      rcases turn_of_stride (stride_advance e m) with ⟨taken, handed⟩ | ⟨c, hc, -⟩
      · exact ⟨by simpa using taken, [], List.nil_sublist _, by simpa using handed⟩
      · simp [ht] at hc
    | some c =>
      obtain ⟨taken, handed⟩ := advance_of_turn e ht
      refine ⟨taken, ?_⟩
      rcases handed with ⟨same, -⟩ | ⟨more, -⟩
      · exact ⟨[], List.nil_sublist _, by simpa using same⟩
      · exact ⟨[c], List.Sublist.refl _, more⟩
  · rw [step_of_ne e m hv, taken?_of_ne hv]
    have ho := outer_move m.bridge v
    exact ⟨by simpa using record_outer Event.taken_ofWork ho, [], List.nil_sublist _,
      by simpa using record_outer Event.handed_ofWork ho⟩

theorem taken_after (e : Engine σ) (m : Moment σ) (vs : List (Move σ)) :
    (m.after e vs).bridge.taken = m.bridge.taken ++ m.turns e vs ∧
      ∃ given, given.Sublist (m.turns e vs) ∧ (m.after e vs).bridge.handed = m.bridge.handed ++ given := by
  induction vs generalizing m with
  | nil => exact ⟨(List.append_nil _).symm, [], List.nil_sublist _, (List.append_nil _).symm⟩
  | cons v vs ih =>
    obtain ⟨taken, given, some_given, handed⟩ := taken_step e m v
    obtain ⟨taken', given', some_given', handed'⟩ := ih (m.step e v)
    refine ⟨?_, given ++ given', some_given.append some_given', ?_⟩
    · rw [after_cons, taken', taken, turns, List.append_assoc]
    · rw [after_cons, handed', handed, List.append_assoc]

end Moment

/-! ## The request stays -/

theorem Bridge.cancelled_returned (b : Bridge σ) (c : Command) (r : σ × Except Abort Unit) :
    (b.returned c r).cancelled = b.cancelled := by
  obtain ⟨s, (a | u)⟩ := r <;> rfl

theorem Bridge.cancelled_built (b : Bridge σ) (r : Except Abort σ) : (b.built r).cancelled = b.cancelled := by
  rcases r with (f | text) | s <;> rfl

theorem cancelled_stride (hs : Stride e m m') (h : m.bridge.cancelled) : m'.bridge.cancelled := by
  have next : ∀ {b b' : Bridge σ} {c : Command}, b.next? = some (c, b') → b'.cancelled = b.cancelled :=
    fun hn => by rw [next?_eq hn]
  cases hs with
  | rest | beginBuild | drain | park | defer | serve | endWrapping => exact h
  | actInBuild ha | actInWrapping ha | actInEvaluation ha => exact cancelled_outer ha.outer h
  | endBuild b r => exact (cancelled_built b r).trans h
  | @close b => exact (close_frame b).2.1.trans h
  | skip hn | refuse hn | handOver hn => exact (next hn).trans h
  | failWrapping b c s a => exact (cancelled_returned b c _).trans h
  | endEvaluation b c r => exact (cancelled_returned b c r).trans h

theorem cancelled_after (e : Engine σ) (h : m.bridge.cancelled) (vs : List (Move σ)) :
    (m.after e vs).bridge.cancelled :=
  Moment.after_keeps (I := fun m => m.bridge.cancelled = true) (fun _ _ ho h => cancelled_outer ho h)
    (fun _ _ hs h => cancelled_stride hs h) h vs

/-! ## What the thread still takes -/

namespace Bridge

theorem deferred_built (b : Bridge σ) (r : Except Abort σ) : (b.built r).deferred = b.deferred := by
  rcases r with (f | text) | s <;> rfl

theorem deferred_close (b : Bridge σ) : b.close.deferred = [] :=
  close_keeps (I := fun b' => b'.deferred = []) (fun _ _ h => h) b rfl

/-- What a task leaves held back. -/
theorem deferred_turn (e : Engine σ) (b₀ b : Bridge σ) (c : Command) :
    ((b.turn e c).moment b₀).bridge.deferred = b.deferred := by
  simp only [turn]
  split
  · rfl
  · split <;> rfl

/-- A parked thread that is asked to end closes down, unless it has just opened the gate itself. -/
theorem task_of_parked (h : b.cancelled) (hp : b.phase = .parked) :
    b.task e = .step b.close ∨ b.task e = .step { b with phase := .draining } := by
  by_cases opened : b.gate = .ready .bootstrapTimeout
  · exact .inr (by simp [task, hp, quits, opened, Gate.isReady])
  · exact .inl (by simp [task, hp, quits, h, opened])

/-- A thread that is asked to end takes what it held back, one by one, or leaves it as it is or altogether. It
takes nothing else. -/
theorem deferred_task (e : Engine σ) (h : b.cancelled) :
    (∃ c, b.next?.map (·.1) = some c ∧ b.deferred = c :: ((b.task e).moment b).bridge.deferred) ∨
      b.next? = none ∧ (((b.task e).moment b).bridge.deferred = b.deferred ∨
        ((b.task e).moment b).bridge.deferred = []) := by
  cases hn : b.next? with
  | some next =>
    obtain ⟨c, b'⟩ := next
    refine .inl ⟨c, rfl, ?_⟩
    rcases next?_cases hn with ⟨cs, -, hd, rfl⟩ | ⟨cs, -, serving, -⟩
    · rw [Moment.task_of_next hn, deferred_turn, hd]
    · simp [h] at serving
  | none =>
    refine .inr ⟨rfl, ?_⟩
    by_cases hp : b.phase = .parked
    · rcases task_of_parked (e := e) h hp with closes | drains
      · rw [closes]
        exact .inr (deferred_close b)
      · rw [drains]
        exact .inl rfl
    unfold task
    split
    · exact .inl rfl
    · exact .inl rfl
    · rename_i parked
      exact absurd parked hp
    · rw [hn]
      exact .inl rfl
    · rw [if_pos h]
      exact .inr (deferred_close b)
    · exact .inl rfl
    · exact .inl rfl

theorem deferred_outer (ho : b.Outer b') : b'.deferred = b.deferred := (queues_outer ho).2.1

end Bridge

/-- What a thread that is asked to end still takes is of what it holds back. -/
theorem Moment.deferred_step (e : Engine σ) (h : m.bridge.cancelled) (v : Move σ) :
    (∃ c, m.taken? v = some c ∧ m.bridge.deferred = c :: (m.step e v).bridge.deferred) ∨
      m.taken? v = none ∧
        ((m.step e v).bridge.deferred = m.bridge.deferred ∨ (m.step e v).bridge.deferred = []) := by
  by_cases hv : v = .advance
  · subst hv
    change (∃ c, m.turn? = some c ∧ m.bridge.deferred = c :: (m.advance e).bridge.deferred) ∨
      m.turn? = none ∧ ((m.advance e).bridge.deferred = m.bridge.deferred ∨ (m.advance e).bridge.deferred = [])
    obtain ⟨b, work⟩ := m
    have acted : ∀ a, (b.perform a).2.deferred = b.deferred := fun a => deferred_outer (acted_perform b a).outer
    cases work with
    | idle =>
      rw [advance_idle]
      rcases deferred_task e h with taken | ⟨none_next, left⟩
      · exact .inl taken
      · exact .inr ⟨by simp [turn?, none_next], left⟩
    | building rest =>
      cases rest with
      | done r => exact .inr ⟨rfl, .inl (deferred_built b r)⟩
      | act a next => exact .inr ⟨rfl, .inl (acted a)⟩
    | wrapping c rest =>
      rcases rest with ⟨s, (a | program)⟩ | ⟨a, next⟩
      · exact .inr ⟨rfl, .inl (sameWork_returned b c _).deferred⟩
      · exact .inr ⟨rfl, .inl rfl⟩
      · exact .inr ⟨rfl, .inl (acted a)⟩
    | evaluating c rest =>
      cases rest with
      | done r => exact .inr ⟨rfl, .inl (sameWork_returned b c r).deferred⟩
      | act a next => exact .inr ⟨rfl, .inl (acted a)⟩
  · rw [step_of_ne e m hv]
    exact .inr ⟨taken?_of_ne hv, .inl (deferred_outer (outer_move m.bridge v))⟩

theorem Moment.turns_of_cancelled (e : Engine σ) (h : m.bridge.cancelled) (vs : List (Move σ)) :
    m.turns e vs <+: m.bridge.deferred := by
  induction vs generalizing m with
  | nil => exact List.nil_prefix
  | cons v vs ih =>
    have later := ih (cancelled_after e h [v])
    change m.turns e (v :: vs) <+: m.bridge.deferred
    change (m.step e v).turns e vs <+: (m.step e v).bridge.deferred at later
    rw [turns]
    rcases deferred_step e h v with ⟨c, taken, deferred⟩ | ⟨none_taken, same | none_left⟩
    · rw [taken, deferred]
      exact (List.cons_prefix_cons).2 ⟨rfl, later⟩
    · rw [none_taken, ← same]
      exact later
    · rw [none_left, List.prefix_nil] at later
      rw [none_taken, later]
      exact List.nil_prefix

/-! ## What the thread is at -/

/-- The engine is at a command until it is done with it. -/
theorem current_or_finished (e : Engine σ) (h : m.work.command? = some c) (vs : List (Move σ)) :
    (m.after e vs).work.command? = some c ∨ c ∈ (m.after e vs).bridge.finished := by
  refine Moment.after_keeps (I := fun m => m.work.command? = some c ∨ c ∈ m.bridge.finished) (fun m b ho h => ?_)
    (fun m m' hs h => ?_) (.inl h) vs
  · have finished : b.finished = m.bridge.finished := record_outer Event.finished_ofWork ho
    exact h.imp_right fun done => finished ▸ done
  · have grows : m.bridge.finished ⊆ m'.bridge.finished := (Moment.record_mono (Moment.journal_stride hs)).subset
    rcases h with current | done
    · have returned : ∀ (b : Bridge σ) (r : σ × Except Abort Unit), c ∈ (b.returned c r).finished := by
        intro b r
        simp [record_returned Event.finished_ofWork]
      cases hs with
      | rest => exact .inl current
      | actInWrapping | actInEvaluation | endWrapping => exact .inl current
      | failWrapping b d s a =>
        obtain rfl : d = c := Option.some.inj current
        exact .inr (returned b _)
      | endEvaluation b d r =>
        obtain rfl : d = c := Option.some.inj current
        exact .inr (returned b r)
      | beginBuild | actInBuild | endBuild | drain | park | defer | serve | close | skip | refuse | handOver =>
        cases current
    · exact .inr (grows done)

/-! ## The thread ends -/

namespace Bridge

/-- A bridge whose thread is as far, with the same commands held back. -/
structure SameTurns (b b' : Bridge σ) : Prop where
  deferred : b'.deferred = b.deferred
  phase : b'.phase = b.phase

theorem SameTurns.trans {b'' : Bridge σ} (h : SameTurns b b') (h' : SameTurns b' b'') : SameTurns b b'' :=
  ⟨h'.deferred.trans h.deferred, h'.phase.trans h.phase⟩

theorem sameTurns_run {α : Type} (rest : Conduct α) (b : Bridge σ) : SameTurns b (b.run rest).2 := by
  induction rest generalizing b with
  | done a => exact ⟨rfl, rfl⟩
  | act a next ih =>
    have ho := (acted_perform b a).outer
    have first : SameTurns b (b.perform a).2 := ⟨deferred_outer ho, (queues_outer ho).1⟩
    exact first.trans (ih _ _)

theorem sameTurns_returned (b : Bridge σ) (c : Command) (r : σ × Except Abort Unit) :
    SameTurns b (b.returned c r) :=
  ⟨(sameWork_returned b c r).deferred, (sameWork_returned b c r).phase⟩

theorem sameTurns_handOff (e : Engine σ) (b : Bridge σ) (c : Command) (rest : Conduct (σ × Except Abort String)) :
    SameTurns b (b.handOff e c rest) := by
  have wrapped := sameTurns_run rest b
  unfold handOff
  split
  · rename_i s a b₁ hr
    rw [hr] at wrapped
    exact wrapped.trans (sameTurns_returned b₁ c _)
  · rename_i s program b₁ hr
    rw [hr] at wrapped
    have noted : SameTurns b₁ (b₁.note (.wrapped c)) := ⟨rfl, rfl⟩
    have evaluated := sameTurns_run (e.evaluate s c.id program) (b₁.note (.wrapped c))
    exact ((wrapped.trans noted).trans evaluated).trans (sameTurns_returned _ c _)

theorem finish_turn (e : Engine σ) (b : Bridge σ) (c : Command) :
    ∃ b', (b.turn e c).finish e = some b' ∧ SameTurns b b' := by
  simp only [turn]
  split
  · exact ⟨_, rfl, rfl, rfl⟩
  · split
    · exact ⟨_, rfl, rfl, rfl⟩
    · exact ⟨_, rfl, rfl, rfl⟩
    · rename_i s _ _
      have same := sameTurns_handOff e ((b.note (.taken c)).note (.handedOver c)) c (e.wrap s c.id c.source)
      exact ⟨_, rfl, same.deferred, same.phase⟩

/-- What a thread that is asked to end has before it. -/
def remaining (b : Bridge σ) : Nat := b.deferred.length + b.phase.rank

/-- A thread that is asked to end does not wait, and each of its tasks brings it nearer to the end. -/
theorem tick_of_cancelled (e : Engine σ) (h : b.cancelled) (hr : b.phase.isRunning) :
    ∃ b', b.tick e = some b' ∧ b'.remaining < b.remaining := by
  have closes : b.close.remaining < b.remaining := by
    have ended : b.close.remaining = 0 := by simp [remaining, deferred_close, (close_frame b).1, Phase.rank]
    have running : 0 < b.phase.rank := by
      revert hr
      cases b.phase <;> simp [Phase.isRunning, Phase.rank]
    have phase : b.phase.rank ≤ b.remaining := Nat.le_add_left _ _
    omega
  rw [tick_eq]
  cases hp : b.phase with
  | starting =>
    have task : b.task e = .build b e.build := by simp [task, hp]
    have ran := sameTurns_run e.build b
    rw [task]
    refine ⟨_, rfl, ?_⟩
    have nearer : ((b.run e.build).2.built (b.run e.build).1).phase.rank ≤ 4 := by
      rcases built_turns (b.run e.build).2 (b.run e.build).1 with ⟨-, -, phase, -⟩ | ⟨-, phase, -⟩ <;>
        simp [phase, Phase.rank]
    have starting : b.phase.rank = 5 := by rw [hp]; rfl
    rw [remaining, remaining, deferred_built, ran.deferred, starting]
    omega
  | bootstrapping =>
    have task : b.task e = .step { b with phase := if b.gate.isReady then .draining else .parked } := by
      simp [task, hp]
    rw [task]
    refine ⟨_, rfl, ?_⟩
    cases hg : b.gate.isReady <;> simp [remaining, hp, Phase.rank]
  | parked =>
    rcases task_of_parked (e := e) h hp with task | task
    · rw [task]
      exact ⟨_, rfl, closes⟩
    · rw [task]
      refine ⟨_, rfl, ?_⟩
      simp [remaining, hp, Phase.rank]
  | draining =>
    cases hd : b.deferred with
    | nil =>
      have task : b.task e = .step { b with phase := .serving } := by simp [task, next?, hp, hd]
      rw [task]
      refine ⟨_, rfl, ?_⟩
      simp [remaining, hp, Phase.rank]
    | cons c cs =>
      have next : b.next? = some (c, { b with deferred := cs }) := by simp [next?, hp, hd]
      obtain ⟨b', finish, same⟩ := finish_turn e { b with deferred := cs } c
      rw [Moment.task_of_next next]
      refine ⟨b', finish, ?_⟩
      simp [remaining, same.deferred, same.phase, hd]
  | serving =>
    have task : b.task e = .step b.close := by simp [task, hp, h]
    rw [task]
    exact ⟨_, rfl, closes⟩
  | stopped | crashed => simp [hp, Phase.isRunning] at hr

end Bridge

namespace Moment

/-- Left to itself, a thread that is asked to end does so, whatever the engine does. -/
theorem ends_of_cancelled (e : Engine σ) (m : Moment σ) (h : m.bridge.cancelled) :
    ∃ n b, m.after e (alone n) = ⟨b, .idle⟩ ∧ b.phase.isRunning = false := by
  have idle : ∀ b : Bridge σ, b.cancelled →
      ∃ n b', (⟨b, .idle⟩ : Moment σ).after e (alone n) = ⟨b', .idle⟩ ∧ b'.phase.isRunning = false := by
    intro b
    induction hk : b.remaining using Nat.strongRecOn generalizing b with
    | ind k ih =>
      intro hc
      cases hr : b.phase.isRunning with
      | false => exact ⟨0, b, rfl, hr⟩
      | true =>
        obtain ⟨b₁, ticks, less⟩ := tick_of_cancelled e hc hr
        obtain ⟨n, hn⟩ := after_tick ticks
        have cancelled : b₁.cancelled := by
          have kept := cancelled_after (m := ⟨b, .idle⟩) e hc (alone n)
          rwa [hn] at kept
        obtain ⟨n', b', hn', ended⟩ := ih _ (hk ▸ less) b₁ rfl cancelled
        exact ⟨n + n', b', by rw [after_alone_add, hn, hn'], ended⟩
  obtain ⟨n, b, hn⟩ := after_work e m
  have cancelled : b.cancelled := by
    have kept := cancelled_after e h (alone n)
    rwa [hn] at kept
  obtain ⟨k, b', hk, ended⟩ := idle b cancelled
  exact ⟨n + k, b', by rw [after_alone_add, hn, hk], ended⟩

end Moment

/-! ## What is left -/

namespace Bridge

theorem resolutions_built (b : Bridge σ) (r : Except Abort σ) : (b.built r).resolutions = b.resolutions := by
  rcases r with (f | text) | s
  · exact (record_note_aside rfl _).trans ((record_openGate _ _ _).trans (by simp))
  · exact record_note_aside rfl _
  · exact record_note_aside rfl _

theorem mem_resolutions_returned {r : σ × Except Abort Unit} (h : (id, o) ∈ (b.returned c r).resolutions) :
    (id, o) ∈ b.resolutions ∨ id = c.id := by
  obtain ⟨s, r⟩ := r
  have noted : ({ b with engine := some s }.note (.returned c r)).resolutions = b.resolutions := record_note_aside rfl _
  rcases r with a | u
  · rcases mem_resolutions_resolve h with old | ⟨-, own, -⟩
    · exact .inl (noted ▸ old)
    · exact .inr own
  · exact .inl (noted ▸ h)

end Bridge

/-- Whether an id is left to the end of the thread: it is pending, was closed, or was given up. -/
def Bridge.Leaves (b : Bridge σ) (id : InvocationId) : Prop :=
  id ∈ b.table.pending ∨ (id, .error .closed) ∈ b.resolutions ∨ id ∈ b.discarded

theorem Ledger.step (l : Ledger m.bridge) (e : Engine σ) (v : Move σ) : Ledger (m.step e v).bridge :=
  Moment.after_keeps (I := fun m => Ledger m.bridge) (fun _ _ ho h => h.outer ho) (fun _ _ hs h => .stride hs h) l [v]

namespace Moment

/-- Why an id is completed with a move: it is signalled, refused by its own dispatch, or closed, or it is of the
command whose turn it is or that the engine is at. -/
theorem mem_resolutions_step {v : Move σ} (h : (id, o) ∈ (m.step e v).bridge.resolutions) :
    (id, o) ∈ m.bridge.resolutions ∨ m.signalled? v = some id ∨ id = m.bridge.nextId ∨ o = .error .closed ∨
      ∃ c, (m.taken? v = some c ∨ m.work.command? = some c) ∧ c.id = id := by
  by_cases hv : v = .advance
  · subst hv
    change (id, o) ∈ m.bridge.resolutions ∨ m.work.signalled? = some id ∨ id = m.bridge.nextId ∨ o = .error .closed ∨
      ∃ c, (m.turn? = some c ∨ m.work.command? = some c) ∧ c.id = id
    have moved : (id, o) ∈ (m.advance e).bridge.resolutions := h
    obtain ⟨b, work⟩ := m
    have acted : ∀ {a : Act}, (id, o) ∈ (b.perform a).2.resolutions →
        (id, o) ∈ b.resolutions ∨ a.signalled? = some id ∨ id = b.nextId ∨ o = .error .closed ∨
          ∃ c, ((⟨b, work⟩ : Moment σ).turn? = some c ∨ work.command? = some c) ∧ c.id = id :=
      fun ha => (mem_resolutions_perform ha).imp_right (Or.imp_right .inl)
    cases work with
    | idle =>
      have stride := stride_advance e ⟨b, .idle⟩
      generalize (⟨b, .idle⟩ : Moment σ).advance e = m' at stride moved
      cases stride with
      | rest | beginBuild | drain | park | defer | serve => exact .inl moved
      | close => exact (mem_resolutions_close moved).imp_right fun ⟨_, closed⟩ => .inr (.inr (.inl closed))
      | skip hn | handOver hn => exact .inl (by simpa [record_next _ hn] using moved)
      | @refuse _ b' c hn =>
        have turn : (⟨b, .idle⟩ : Moment σ).turn? = some c := by simp [turn?, hn]
        rcases mem_resolutions_resolve moved with old | ⟨-, own, -⟩
        · exact .inl (by simpa [record_next _ hn] using old)
        · exact .inr (.inr (.inr (.inr ⟨c, .inl turn, own.symm⟩)))
    | building rest =>
      cases rest with
      | done r => exact .inl (Bridge.resolutions_built b r ▸ moved)
      | act a next => exact acted moved
    | wrapping c rest =>
      rcases rest with ⟨s, (a | program)⟩ | ⟨a, next⟩
      · rcases mem_resolutions_returned moved with old | own
        · exact .inl old
        · exact .inr (.inr (.inr (.inr ⟨c, .inr rfl, own.symm⟩)))
      · have noted : (b.note (.wrapped c)).resolutions = b.resolutions := record_note_aside rfl b
        exact .inl (noted ▸ moved)
      · exact acted moved
    | evaluating c rest =>
      cases rest with
      | done r =>
        rcases mem_resolutions_returned moved with old | own
        · exact .inl old
        · exact .inr (.inr (.inr (.inr ⟨c, .inr rfl, own.symm⟩)))
      | act a next => exact acted moved
  · rw [step_of_ne e m hv] at h
    have outer : m.signalled? v = v.signalled? := by
      cases v with
      | advance => exact absurd rfl hv
      | _ => rfl
    rw [outer]
    exact (mem_resolutions_move h).imp_right (Or.imp_right .inl)

/-- The engine is at the command that it was at, or at one whose turn has just come. -/
theorem command_step {v : Move σ} (h : (m.step e v).work.command? = some c) :
    m.work.command? = some c ∨ m.taken? v = some c := by
  by_cases hv : v = .advance
  · subst hv
    have moved : (m.advance e).work.command? = some c := h
    change m.work.command? = some c ∨ m.turn? = some c
    have stride := stride_advance e m
    generalize m.advance e = m' at stride moved
    cases stride with
    | rest | actInWrapping | actInEvaluation | endWrapping => exact .inl moved
    | handOver hn => exact .inr (by simpa [turn?, hn, Work.command?] using moved)
    | _ => cases moved
  · rw [step_of_ne e m hv] at h
    exact .inl h

theorem leaves_step (l : Ledger m.bridge) {v : Move σ} (current : ∀ c, m.work.command? = some c → c.id ≠ id)
    (turn : ∀ c, m.taken? v = some c → c.id ≠ id) (signalled : m.signalled? v ≠ some id)
    (h : m.bridge.Leaves id) : (m.step e v).bridge.Leaves id := by
  have grows : ∀ {α : Type} (f : Event → Option α), m.bridge.record f ⊆ (m.step e v).bridge.record f :=
    fun f => (record_after f e m [v]).subset
  rcases h with pending | closed | given_up
  · by_cases still : id ∈ (m.step e v).bridge.table.pending
    · exact .inl still
    · have later : Ledger (m.step e v).bridge := l.step e v
      have issued : id ∈ (m.step e v).bridge.issued := grows Event.issued? ((l.pending_iff id).1 pending).1
      rcases mem_ended.1 (later.ended_of_not_pending issued still) with ⟨o, resolved⟩ | given_up
      · rcases mem_resolutions_step resolved with old | told | new | rfl | ⟨c, at_work, rfl⟩
        · exact absurd old (l.not_resolved_of_pending pending)
        · exact absurd told signalled
        · exact absurd (new ▸ ((l.pending_iff id).1 pending).1) l.nextId_not_issued
        · exact .inr (.inl resolved)
        · rcases at_work with taken | now
          · exact absurd rfl (turn c taken)
          · exact absurd rfl (current c now)
      · exact .inr (.inr given_up)
  · exact .inr (.inl (grows Event.resolution? closed))
  · exact .inr (.inr (grows Event.discarded? given_up))

theorem leaves_after (l : Ledger m.bridge) (vs : List (Move σ)) (current : ∀ c, m.work.command? = some c → c.id ≠ id)
    (turns : ∀ c ∈ m.turns e vs, c.id ≠ id) (signalled : id ∉ m.signalled e vs) (h : m.bridge.Leaves id) :
    (m.after e vs).bridge.Leaves id := by
  induction vs generalizing m with
  | nil => exact h
  | cons v vs ih =>
    have turn : ∀ c, m.taken? v = some c → c.id ≠ id :=
      fun c hc => turns c (List.mem_append_left _ (by simp [hc]))
    have told : m.signalled? v ≠ some id := fun hs => signalled (List.mem_append_left _ (by simp [hs]))
    refine ih (l.step e v) (fun c hc => ?_) (fun c hc => turns c (List.mem_append_right _ hc))
      (fun hs => signalled (List.mem_append_right _ hs)) (leaves_step l current turn told h)
    rcases command_step hc with now | taken
    · exact current c now
    · exact turn c taken

end Moment

/-- A thread that is asked to end, at whatever moment, finishes the evaluation that it is at and takes nothing
more from its queue: all that it may still give its engine is what it held back at that moment, in its order, and once
it serves its queue nothing at all. Left to itself it ends, and when it has closed down, whatever was pending at that
moment, was not at work and had no turn since is closed, unless it was signalled or given up meanwhile. -/
theorem cancelled_thread_finishes_and_closes (e : Engine σ) (config : Config) (number : Nat)
    (vs ws : List (Move σ)) (asked : ((Moment.start config number).after e vs).bridge.cancelled) :
    let m := (Moment.start config number).after e vs
    let later := m.after e ws
    (later.bridge.taken = m.bridge.taken ++ m.turns e ws ∧ m.turns e ws <+: m.bridge.deferred ∧
      (∃ given, given.Sublist (m.turns e ws) ∧ later.bridge.handed = m.bridge.handed ++ given) ∧
      (m.bridge.phase = .starting ∨ m.bridge.phase = .serving → later.bridge.handed = m.bridge.handed)) ∧
    (∀ c, m.work.command? = some c → later.work.command? = some c ∨ c ∈ later.bridge.finished) ∧
    (∃ n b, later.after e (Moment.alone n) = ⟨b, .idle⟩ ∧ b.phase.isRunning = false) ∧
    (later.bridge.phase = .stopped → later.bridge.pending = 0 ∧
      ∀ id, m.bridge.table.isPending id → (∀ c, m.work.command? = some c → c.id ≠ id) →
        (∀ c ∈ m.turns e ws, c.id ≠ id) → id ∉ m.signalled e ws → id ∉ later.bridge.discarded →
          (id, .error .closed) ∈ later.bridge.resolutions) := by
  intro m later
  have prefix_held : m.turns e ws <+: m.bridge.deferred := Moment.turns_of_cancelled e asked ws
  have ended : Ended later.bridge := by
    have reached := ended_after e config number (vs ++ ws)
    rwa [Moment.after_append] at reached
  obtain ⟨taken, given, some_given, handed⟩ := Moment.taken_after e m ws
  refine ⟨⟨taken, prefix_held, ⟨given, some_given, handed⟩, fun none_held => ?_⟩,
    fun c hc => current_or_finished e hc ws, Moment.ends_of_cancelled e later (cancelled_after e asked ws),
    fun stopped => ⟨?_, ?_⟩⟩
  · have none_deferred : m.bridge.deferred = [] := (queues_after e config number vs).1.none_deferred none_held
    have no_turns : m.turns e ws = [] := by
      rw [none_deferred, List.prefix_nil] at prefix_held
      exact prefix_held
    rw [no_turns, List.sublist_nil] at some_given
    exact handed.trans (by simp [some_given])
  · exact congrArg List.length (ended.closed stopped).2
  · intro id pending current turns signalled kept
    have left := Moment.leaves_after (ledger_after e config number vs) ws current turns signalled
      (.inl (Table.isPending_iff.1 pending))
    rcases left with still | closed | given_up
    · have none_pending := (ended.closed stopped).2
      exact absurd still (none_pending ▸ List.not_mem_nil)
    · exact closed
    · exact absurd given_up kept

/-- An engine that shuts its bridge down whenever it evaluates something. -/
def leaving : Engine Unit where
  build := .done (.ok ())
  wrap _ _ source := .done ((), .ok source)
  evaluate _ id _ := .act .shutdown fun _ => .act (.signal (.ofValue id .null)) fun _ => .done ((), .ok ())

/-- Two sources are held back, the gate opens, and a third source is invoked while the engine evaluates the
first one, which has just shut the bridge down. -/
def leavingRun : List (Move Unit) :=
  Moment.alone 2 ++ [.act (.invoke "x"), .act (.invoke "y")] ++ Moment.alone 4 ++ [.act .ready] ++ Moment.alone 2 ++
    [.act (.invoke "z")] ++ Moment.alone 2

/-- The moment at which the end is asked for. -/
def leavingMoment : Moment Unit := (Moment.start {} 1).after leaving leavingRun

/-- The moment at which the thread has ended, left to itself. -/
def leftMoment : Moment Unit := leavingMoment.after leaving (Moment.alone 9)

theorem third_source_is_closed :
    leavingMoment.bridge.cancelled ∧ leftMoment.bridge.phase = .stopped ∧
      leavingMoment.bridge.table.isPending (.issue "inv" 3) ∧
      (.issue "inv" 3, .error .closed) ∈ leftMoment.bridge.resolutions := by
  have asked : leavingMoment.bridge.cancelled = true := rfl
  have stopped : leftMoment.bridge.phase = .stopped := rfl
  have pending : leavingMoment.bridge.table.isPending (.issue "inv" 3) = true := rfl
  have other : ∀ n < 3, InvocationId.issue "inv" n ≠ .issue "inv" 3 := by decide
  have current : ∀ c, leavingMoment.work.command? = some c → c.id ≠ .issue "inv" 3 := by
    intro c hc
    have first : leavingMoment.work.command? = some ⟨.issue "inv" 1, "x"⟩ := rfl
    obtain rfl := Option.some.inj (first.symm.trans hc)
    exact other 1 (by decide)
  have turns : ∀ c ∈ leavingMoment.turns leaving (Moment.alone 9), c.id ≠ .issue "inv" 3 := by
    have second : leavingMoment.turns leaving (Moment.alone 9) = [⟨.issue "inv" 2, "y"⟩] := rfl
    rw [second]
    intro c hc
    obtain rfl := List.mem_singleton.1 hc
    exact other 2 (by decide)
  have signalled : InvocationId.issue "inv" 3 ∉ leavingMoment.signalled leaving (Moment.alone 9) := by
    have own : leavingMoment.signalled leaving (Moment.alone 9) = [.issue "inv" 1, .issue "inv" 2] := rfl
    rw [own]
    decide
  have kept : InvocationId.issue "inv" 3 ∉ leftMoment.bridge.discarded := by
    have none_given_up : leftMoment.bridge.discarded = [] := rfl
    rw [none_given_up]
    exact List.not_mem_nil
  have closes :=
    (cancelled_thread_finishes_and_closes leaving {} 1 leavingRun (Moment.alone 9) asked).2.2.2 stopped
  exact ⟨asked, stopped, pending, closes.2 _ pending current turns signalled kept⟩

/-- A request to end does not keep the engine from what was held back: the first source shuts the bridge
down, and the second one is handed over after that, and evaluated. -/
theorem held_back_source_runs_after_shutdown :
    leavingMoment.bridge.cancelled ∧ leavingMoment.work.command? = some ⟨.issue "inv" 1, "x"⟩ ∧
      leavingMoment.bridge.deferred = [⟨.issue "inv" 2, "y"⟩] ∧
      leavingMoment.bridge.handed = [⟨.issue "inv" 1, "x"⟩] ∧
      leavingMoment.bridge.table.isPending (.issue "inv" 2) ∧ leftMoment.bridge.phase = .stopped ∧
      leftMoment.bridge.handed = [⟨.issue "inv" 1, "x"⟩, ⟨.issue "inv" 2, "y"⟩] ∧
      leftMoment.bridge.resolutions = [(.issue "inv" 1, .ok .null), (.issue "inv" 2, .ok .null),
        (.issue "inv" 3, .error .closed)] :=
  ⟨rfl, rfl, rfl, rfl, rfl, rfl, rfl, rfl⟩

end ScriptHost
