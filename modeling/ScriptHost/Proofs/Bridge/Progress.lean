import ScriptHost.Proofs.Bridge.Teardown
/-!
Bridges come to rest.

An engine is `Quiet` if its calls send no commands of their own. Then each task of the thread takes
something off its `backlog`, so that the thread, left to itself, comes to have nothing left to do.
-/

namespace ScriptHost

open Bridge

variable {σ α : Type} {e : Engine σ} {b b' : Bridge σ} {c : Command}

/-- A conduct that sends no commands. -/
inductive Conduct.Quiet : Conduct α → Prop
  | done (a : α) : Quiet (.done a)
  | act {x : Act} {next : x.Reply → Conduct α} (hx : ∀ source, x ≠ .invoke source) (h : ∀ r, Quiet (next r)) :
      Quiet (.act x next)

theorem Conduct.Quiet.map {β : Type} {rest : Conduct α} (h : rest.Quiet) (f : α → β) : (rest.map f).Quiet := by
  induction h with
  | done a => exact .done (f a)
  | act hx _ ih => exact .act hx ih

/-- An engine whose calls send no commands. -/
structure Engine.Quiet (e : Engine σ) : Prop where
  build : e.build.Quiet
  wrap : ∀ s id source, (e.wrap s id source).Quiet
  evaluate : ∀ s id program, (e.evaluate s id program).Quiet

/-- How far a phase is from the end. -/
def Phase.rank : Phase → Nat
  | starting => 5
  | bootstrapping => 4
  | parked => 3
  | draining => 2
  | serving => 1
  | stopped | crashed => 0

namespace Bridge

/-- What the thread has before it. A command in the queue counts three times, as it may be held back first, and
the thread looks at the gate again then. -/
def backlog (b : Bridge σ) : Nat := 3 * b.queue.length + b.deferred.length + b.phase.rank

/-- A bridge with the same work before it. -/
structure SameWork (b b' : Bridge σ) : Prop where
  queue : b'.queue = b.queue
  deferred : b'.deferred = b.deferred
  phase : b'.phase = b.phase

theorem SameWork.trans {b'' : Bridge σ} (h : SameWork b b') (h' : SameWork b' b'') : SameWork b b'' :=
  ⟨h'.queue.trans h.queue, h'.deferred.trans h.deferred, h'.phase.trans h.phase⟩

theorem SameWork.backlog (h : SameWork b b') : b'.backlog = b.backlog := by
  rw [Bridge.backlog, h.queue, h.deferred, h.phase, Bridge.backlog]

theorem sameWork_perform (b : Bridge σ) {a : Act} (h : ∀ source, a ≠ .invoke source) :
    SameWork b (b.perform a).2 := by
  cases a with
  | invoke source => exact absurd rfl (h source)
  | post raw =>
    change SameWork b (b.post raw).2
    unfold post
    split <;> exact ⟨rfl, rfl, rfl⟩
  | release id =>
    change SameWork b (b.drop id)
    unfold drop
    split <;> exact ⟨rfl, rfl, rfl⟩
  | _ => exact ⟨rfl, rfl, rfl⟩

theorem sameWork_run {rest : Conduct α} (h : rest.Quiet) (b : Bridge σ) : SameWork b (b.run rest).2 := by
  induction h generalizing b with
  | done a => exact ⟨rfl, rfl, rfl⟩
  | act hx _ ih => exact (sameWork_perform b hx).trans (ih _ _)

theorem sameWork_returned (b : Bridge σ) (c : Command) (r : σ × Except Abort Unit) :
    SameWork b (b.returned c r) := by
  obtain ⟨s, (a | u)⟩ := r <;> exact ⟨rfl, rfl, rfl⟩

theorem sameWork_handOff (quiet : e.Quiet) {rest : Conduct (σ × Except Abort String)} (h : rest.Quiet) (b : Bridge σ)
    (c : Command) : SameWork b (b.handOff e c rest) := by
  have wrapped := sameWork_run h b
  unfold handOff
  split
  · rename_i s a b₁ hr
    rw [hr] at wrapped
    exact wrapped.trans (sameWork_returned b₁ c _)
  · rename_i s program b₁ hr
    rw [hr] at wrapped
    have noted : SameWork b₁ (b₁.note (.wrapped c)) := ⟨rfl, rfl, rfl⟩
    have evaluated := sameWork_run (quiet.evaluate s c.id program) (b₁.note (.wrapped c))
    exact ((wrapped.trans noted).trans evaluated).trans (sameWork_returned _ c _)

/-- A turn takes its command off the backlog. -/
theorem backlog_next (hn : b.next? = some (c, b')) : b'.backlog < b.backlog := by
  rcases next?_cases hn with ⟨cs, -, hd, rfl⟩ | ⟨cs, -, -, hq, rfl⟩
  · simp [backlog, hd]
  · simp [backlog, hq]

theorem backlog_close (hr : b.phase.isRunning) : b.close.backlog < b.backlog := by
  have emptied : b.close.queue = [] ∧ b.close.deferred = [] ∧ b.close.phase = .stopped :=
    close_keeps (I := fun b' => b'.queue = [] ∧ b'.deferred = [] ∧ b'.phase = .stopped) (fun _ _ h => h) b
      ⟨rfl, rfl, rfl⟩
  obtain ⟨queue, deferred, phase⟩ := emptied
  have running : 0 < b.phase.rank := by
    revert hr
    cases b.phase <;> simp [Phase.isRunning, Phase.rank]
  have nothing : b.close.backlog = 0 := by simp [backlog, queue, deferred, phase, Phase.rank]
  have something : b.phase.rank ≤ b.backlog := Nat.le_add_left _ _
  omega

theorem backlog_built (hp : b.phase = .starting) (r : Except Abort σ) : (b.built r).backlog < b.backlog := by
  have deferred : (b.built r).deferred = b.deferred := by
    rcases r with (f | text) | s <;> rfl
  rcases built_turns b r with ⟨-, -, phase, queue⟩ | ⟨-, phase, queue⟩
  · simp [backlog, queue, deferred, phase, hp, Phase.rank]
  · simp only [backlog, queue, deferred, phase, hp, Phase.rank, List.length_nil]
    omega

/-- What a task that is no waiting makes of the bridge. -/
def Task.finish (e : Engine σ) : Task σ → Option (Bridge σ)
  | .wait => none
  | .step b => some b
  | .build b rest => some ((b.run rest).2.built (b.run rest).1)
  | .wrap b c rest => some (b.handOff e c rest)

theorem tick_eq (e : Engine σ) (b : Bridge σ) : b.tick e = (b.task e).finish e := by
  unfold tick
  cases b.task e <;> rfl

theorem backlog_turn (quiet : e.Quiet) {b₁ : Bridge σ} (h : (b.turn e c).finish e = some b₁) :
    b₁.backlog = b.backlog := by
  cases hp : (b.note (.taken c)).table.isPending c.id with
  | false =>
    simp only [turn, hp, Bool.not_false, if_true] at h
    obtain rfl := Option.some.inj h
    rfl
  | true =>
    simp only [turn, hp, Bool.not_true, Bool.false_eq_true, if_false] at h
    split at h
    · obtain rfl := Option.some.inj h
      rfl
    · obtain rfl := Option.some.inj h
      rfl
    · obtain rfl := Option.some.inj h
      exact (sameWork_handOff quiet (quiet.wrap _ _ _) _ c).backlog

/-- Each task takes something off the backlog. -/
theorem backlog_tick (quiet : e.Quiet) (h : b.tick e = some b') : b'.backlog < b.backlog := by
  rw [tick_eq] at h
  unfold task at h
  split at h
  · rename_i hp
    obtain rfl := Option.some.inj h
    have same := sameWork_run quiet.build b
    exact same.backlog ▸ backlog_built (same.phase.trans hp) _
  · rename_i hp
    obtain rfl := Option.some.inj h
    cases hg : b.gate.isReady <;> simp [backlog, hp, Phase.rank]
  · rename_i hp
    split at h
    · obtain rfl := Option.some.inj h
      exact backlog_close (by simp [hp, Phase.isRunning])
    · split at h
      · obtain rfl := Option.some.inj h
        simp [backlog, hp, Phase.rank]
      · split at h
        · cases h
        · rename_i c cs hq
          obtain rfl := Option.some.inj h
          simp only [backlog, hq, hp, Phase.rank, List.length_cons, List.length_append, List.length_nil]
          omega
  · rename_i hp
    split at h
    · rename_i c b₁ hn
      exact backlog_turn quiet h ▸ backlog_next hn
    · obtain rfl := Option.some.inj h
      simp [backlog, hp, Phase.rank]
  · rename_i hp
    split at h
    · obtain rfl := Option.some.inj h
      exact backlog_close (by simp [hp, Phase.isRunning])
    · split at h
      · rename_i c b₁ hn
        exact backlog_turn quiet h ▸ backlog_next hn
      · cases h
  · cases h
  · cases h

/-- A bridge settles in as many steps as its backlog says. -/
theorem isSettled_settle (quiet : e.Quiet) {patience : Nat} (h : b.backlog ≤ patience) :
    (b.settle e patience).isSettled e := by
  induction patience generalizing b with
  | zero =>
    change (b.tick e).isNone = true
    cases ht : b.tick e with
    | none => rfl
    | some b' =>
      have less := backlog_tick quiet ht
      omega
  | succ n ih =>
    unfold settle
    cases ht : b.tick e with
    | none => simp [isSettled, ht]
    | some b' =>
      have less := backlog_tick quiet ht
      exact ih (by omega)

end Bridge

/-- The engine thread, left to itself, comes to have nothing left to do. -/
theorem Moment.comes_to_rest (quiet : e.Quiet) (m : Moment σ) :
    ∃ n b, m.after e (alone n) = ⟨b, .idle⟩ ∧ b.isSettled e := by
  have idle : ∀ b : Bridge σ, ∃ n b',
      (⟨b, .idle⟩ : Moment σ).after e (alone n) = ⟨b', .idle⟩ ∧ b'.isSettled e := by
    intro b
    obtain ⟨n, hn⟩ := after_settle e b.backlog b
    exact ⟨n, _, hn, isSettled_settle quiet (Nat.le_refl _)⟩
  obtain ⟨n, b, hn⟩ := after_work e m
  obtain ⟨k, b', hk, settled⟩ := idle b
  exact ⟨n + k, b', by rw [after_alone_add, hn, hk], settled⟩

end ScriptHost
