import ScriptHost.Proofs.Script.Parts
import ScriptHost.Proofs.Script.Raising
import ScriptHost.Script.Report
/-!
What an evaluation knows of time.

An evaluation sees of its clock only how much has gone by since the clock was started. So it is `Timeless`: where the
clock shows more, and was started as much later, it does the same. Every source is run on a clock that was just
started, so whatever the clock shows, and whenever it was started before, the same comes of the source and takes as
long (`run_timeless`). An evaluation on a clock that nobody starts anew would time out at its first step once the limit
has gone by (`Program.run_of_late`).
-/

namespace ScriptHost.Script

open Run

/-! ## Clocks -/

namespace Stopwatch

/-- The clock if it showed so much more and was started as much later. -/
def later (w : Stopwatch) (k : Nat) : Stopwatch := ⟨w.now + k, w.started + k⟩

@[simp] theorem elapsed_later (w : Stopwatch) (k : Nat) : (w.later k).elapsed = w.elapsed :=
  Nat.add_sub_add_right w.now k w.started

@[simp] theorem forward_later (w : Stopwatch) (k n : Nat) : (w.later k).forward n = (w.forward n).later k := by
  simp [later, forward, Nat.add_right_comm]

/-- Of a clock that was just started nothing is known but what it shows. -/
theorem restart_eq_later (w : Stopwatch) : w.restart = ({} : Stopwatch).later w.now := by simp [restart, later]

@[simp] theorem elapsed_restart (w : Stopwatch) : w.restart.elapsed = 0 := Nat.sub_self w.now

end Stopwatch

/-- The machine with such a clock. -/
def Machine.later (m : Machine) (k : Nat) : Machine := { m with watch := m.watch.later k }

/-! ## Evaluations -/

namespace Run

/-- A run that does the same where the clock shows more and was started as much later. -/
def Timeless {α : Type} (x : Run α) : Prop := ∀ m k, x.run (m.later k) = ((x.run m).1, (x.run m).2.later k)

variable {α β : Type} {x : Run α}

theorem Timeless.bind {f : α → Run β} (hx : x.Timeless) (hf : ∀ a, (f a).Timeless) : (x >>= f).Timeless := by
  intro m k
  have bound (m : Machine) : (x >>= f).run m = ExceptT.bindCont f (x.run m).1 (x.run m).2 := rfl
  rw [bound, bound, hx]
  rcases x.run m with ⟨e | a, m'⟩
  · rfl
  · exact hf a m' k

theorem timeless_pure (a : α) : (pure a : Run α).Timeless := fun _ _ => rfl

theorem timeless_throw (e : Exit) : (throw e : Run α).Timeless := fun _ _ => rfl

theorem timeless_raise (r : Raised) : (raise r : Run α).Timeless := timeless_throw _

theorem timeless_modify {f : Machine → Machine} (h : ∀ m k, f (m.later k) = (f m).later k) :
    (modify f : Run Unit).Timeless := fun m k => congrArg (fun m => (Except.ok (), m)) (h m k)

/-- What depends on the machine may not depend on more than what the clock has run. -/
theorem timeless_get {f : Machine → Run β} (hf : ∀ m, (f m).Timeless) (h : ∀ m k, f (m.later k) = f m) :
    (get >>= f).Timeless := by
  intro m k
  change (f (m.later k)).run (m.later k) = (((f m).run m).1, ((f m).run m).2.later k)
  rw [h, hf m m k]

theorem Timeless.attempt (hx : x.Timeless) : (attempt x).Timeless := by
  intro m k
  have ended (m : Machine) : (Run.attempt x).run m = (.ok (x.run m).1, (x.run m).2) := rfl
  rw [ended, ended, hx]

theorem Timeless.enclosed (hx : x.Timeless) : (enclosed x).Timeless := by
  intro m k
  have ended (m : Machine) : (Run.enclosed x).run m = ((x.run m).1,
    { (x.run m).2 with scope := (x.run m).2.scope.drop ((x.run m).2.scope.length - m.scope.length) }) := rfl
  rw [ended, ended, hx]
  rfl

theorem Timeless.apart (hx : x.Timeless) (scope : List Variable) : (apart scope x).Timeless := by
  intro m k
  have ended (m : Machine) : (Run.apart scope x).run m = ((x.run { m with scope }).1,
    { (x.run { m with scope }).2 with scope := m.scope }) := rfl
  rw [ended, ended, show ({ m.later k with scope } : Machine) = Machine.later { m with scope } k from rfl, hx]
  rfl

theorem timeless_proceed (n : Nat) : (proceed n).Timeless :=
  timeless_modify fun m k => by simp [Machine.later]

theorem timeless_checkSteps (limits : Limits) (more : Nat) (p : Option Place) :
    (checkSteps limits more p).Timeless := by
  refine timeless_get (fun m => ?_) fun m k => by simp [Machine.later]
  split
  · exact timeless_raise _
  · split
    · exact timeless_raise _
    · exact timeless_pure ()

theorem timeless_spin (limits : Limits) (p : Place) : (spin limits p : Run α).Timeless := by
  refine timeless_get (fun m => (timeless_proceed _).bind fun _ => ?_) fun m k => by simp [Machine.later]
  split <;> exact timeless_raise _

theorem timeless_checkRoom (limits : Limits) (more : Nat) (p : Place) : (checkRoom limits more p).Timeless := by
  refine timeless_get (fun m => ?_) fun _ _ => rfl
  split
  · exact timeless_raise _
  · exact timeless_pure ()

/-- No step of an evaluation knows more of time. -/
theorem steady_timeless : Steady fun _ x => x.Timeless where
  pure := timeless_pure
  bind := .bind
  raise _ := timeless_raise _
  exit _ := timeless_throw _
  attempt := .attempt
  proceed := timeless_proceed
  checkSteps := timeless_checkSteps
  spin := timeless_spin
  lookup? _ := timeless_get (fun _ => timeless_pure _) fun _ _ => rfl
  assign _ _ _ := timeless_modify fun _ _ => rfl
  bring _ _ _ := timeless_modify fun _ _ => rfl
  checkRoom := timeless_checkRoom
  print _ := timeless_modify fun _ _ => rfl

end Run

namespace Part

/-- Whether no change that a part may make knows more of time. -/
abbrev IsTimeless (t : Part) : Prop := t.Calm fun _ x => x.Timeless

variable {n : Nat} (c : Context)

theorem inherits_timeless (ih : ∀ c (t : Part), t.IsTimeless → (t.run n c).Timeless) (t : Part) :
    t.Inherits (fun _ x => x.Timeless) (fun _ x => x.Timeless) n c where
  toSteady := steady_timeless
  small := steady_timeless
  simple := id
  has _ calm := ih c _ calm
  enclosed := .enclosed
  attempted hf hx ho := hx.attempt.bind fun e => by
    by_cases raised : ∃ r, e = .error (.raised r)
    · obtain ⟨r, rfl⟩ := raised
      exact hf r ▸ timeless_raise r
    · exact ho e fun r hr => raised ⟨r, hr⟩

/-- What a call of a function that no script defines does. -/
theorem timeless_callOuter (f : String) (vs : List Value) {k : Hold} (hk : k.Calm fun _ x => x.Timeless) (p : Place) :
    (c.callOuter f vs k p).Timeless := steady_timeless.callOuter c f vs hk p fun _ _ => timeless_raise _

theorem timeless_function (ih : ∀ c (t : Part), t.IsTimeless → (t.run n c).Timeless) (g : Function) (vs : List Value)
    (p : Place) : (runFunction (n + 1) c g vs p).Timeless := by
  by_cases runs : g.body ≠ [] ∧ c.level < c.limits.callLevels ∧ g.params.length ≤ c.limits.variableCount
  case neg => exact steady_timeless.runFunction g vs runs
  rw [runFunction_eq g vs runs.1 runs.2.1 runs.2.2]
  refine (steady_timeless.tick _ _).bind fun _ => ?_
  refine ((ih c.inner (.body g.body .unit) trivial).apart (g.scope vs)).attempt.bind fun e => ?_
  rcases e with (_ | _ | _ | _) | _
  case error.returned | ok => exact timeless_pure _
  all_goals exact timeless_throw _

theorem timeless_attempt (ih : ∀ c (t : Part), t.IsTimeless → (t.run n c).Timeless) (body handler : List Stmt)
    (q : Place) (binder : Option (String × Place)) (p : Place) :
    (evalStmt (n + 1) c (.attempt body q binder handler p)).Timeless := by
  have concluded (r : Raised) (e : Except Exit Value) : (conclude r e).Timeless := by
    unfold conclude
    split
    · exact timeless_pure _
    · exact timeless_raise _
    · exact timeless_throw _
  rw [evalStmt_attempt]
  refine (steady_timeless.tick _ _).bind fun _ => (ih c (.block body) trivial).attempt.bind fun e => ?_
  rcases e with (r | _ | _ | _) | v
  case ok => exact timeless_pure v
  case error.raised =>
    by_cases caught : r.isCatchable = true
    · rw [handle_caught n c binder handler caught]
      have handled := (steady_timeless.receive c r binder).bind fun _ => ih c (.block handler) trivial
      exact handled.enclosed.attempt.bind (concluded r)
    · rw [handle_uncaught n c binder handler caught]
      exact timeless_raise r
  all_goals exact timeless_throw _

/-- No part of an evaluation knows more of time than what has gone by since the clock was started. -/
theorem timeless (t : Part) (calm : t.IsTimeless) : (t.run n c).Timeless := by
  induction n generalizing c t with
  | zero => exact steady_timeless.run_zero c t
  | succ n ih =>
    cases t with
    | method v f vs k p =>
      change (callMethod (n + 1) c v f vs k p).Timeless
      rw [callMethod]
      split
      · exact ih c (.function _ vs p) trivial
      · exact timeless_callOuter c f (v :: vs) calm p
    | applied f vs k p =>
      change (callFunction (n + 1) c f vs k p).Timeless
      rw [callFunction]
      split
      · exact ih c (.function _ vs p) trivial
      · exact timeless_callOuter c f vs calm p
    | function g vs p => exact timeless_function c ih g vs p
    | stmt s =>
      cases s with
      | throw value p =>
        change (evalStmt (n + 1) c (.throw value p)).Timeless
        rw [evalStmt]
        exact (steady_timeless.tick _ _).bind fun _ => (ih c (.optional value) trivial).bind fun _ => timeless_raise _
      | attempt body q binder handler p => exact timeless_attempt c ih body handler q binder p
      | _ => exact (inherits_timeless c ih _).run trivial calm
    | _ => exact (inherits_timeless c ih _).run trivial calm

end Part

/-! ## Scripts -/

variable (limits : Limits) (api : Api) (w : Stopwatch) (id : String)

theorem Program.run_eq (program : Program) :
    let e := program.evaluation limits api w id
    program.run limits api w id = ⟨.ofEnd limits api.hostType e.1, e.2.output.reverse, e.2.watch⟩ := rfl

theorem Program.evaluation_later (program : Program) (k : Nat) :
    program.evaluation limits api (w.later k) id =
      ((program.evaluation limits api w id).1, (program.evaluation limits api w id).2.later k) :=
  Part.timeless (program.context limits api) (.body program.body .unit) trivial (.opening w id) k

theorem Program.run_later (program : Program) (k : Nat) :
    program.run limits api (w.later k) id =
      { program.run limits api w id with watch := (program.run limits api w id).watch.later k } := by
  rw [program.run_eq, program.evaluation_later]
  rfl

/-- What the clock shows, and when it was started before, is the same to a script. -/
theorem run_timeless (source : String) :
    let first := run limits api {} id source
    let f := run limits api w id source
    f.verdict = first.verdict ∧ f.output = first.output ∧ f.watch.now = w.now + first.watch.now := by
  intro first f
  cases parsed : Program.ofSource limits source with
  | error e =>
    have ended (w : Stopwatch) : run limits api w id source =
        ⟨.refused (.engine s!"Parse error: {e.message}"), [], w⟩ := by rw [run, parsed]
    simp [first, f, ended]
  | ok p =>
    let q := p.reduced limits idName (.str id)
    have ended (w : Stopwatch) : run limits api w id source = q.run limits api w.restart id := by rw [run, parsed]
    have fresh : ({} : Stopwatch).restart = {} := rfl
    simp only [first, f, ended, fresh, w.restart_eq_later, q.run_later]
    exact ⟨trivial, trivial, Nat.add_comm _ _⟩

theorem raises_tick_of_late {m : Machine} (p : Option Place) (few : exceeds limits.operations (m.steps + 1) = false)
    (late : timeLimit limits < m.watch.elapsed) : (tick limits p).Raises m .timedOut := by
  have later : timeLimit limits < (m.watch.forward 1).elapsed := by
    unfold Stopwatch.elapsed at late ⊢
    change _ < m.watch.now + 1 - m.watch.started
    omega
  unfold Raises
  change ((if exceeds limits.operations (m.steps + 1) then raise (.exceeded .operations p)
    else if timeLimit limits < (m.watch.forward 1).elapsed then raise .timedOut else pure () : Run Unit).run _).1 = _
  rw [few, if_neg Bool.false_ne_true, if_pos later]
  rfl

/-- A program with something to do times out at its first step if the limit has gone by since the clock was
started. -/
theorem Program.run_of_late (program : Program) (nonempty : program.body ≠ [])
    (late : timeLimit limits < w.elapsed) :
    (program.run limits api w id).verdict = .refused (.scriptTimeout limits.timeoutMs) := by
  obtain ⟨s, ss, body⟩ := List.exists_cons_of_ne_nil nonempty
  obtain ⟨n, bound⟩ : ∃ n, callBound = n + 2 := ⟨999999999998, rfl⟩
  have few : exceeds limits.operations 1 = false := by
    unfold exceeds
    cases limits.operations <;> simp
  have ticks : (tick limits s.place).Raises (.opening w id) .timedOut := raises_tick_of_late limits _ few late
  have begins : (evalStmt (n + 1) (program.context limits api) s).Raises (.opening w id) .timedOut := by
    unfold evalStmt
    exact raises_bind_iff.2 (.inl ticks)
  have ended : (program.evaluation limits api w id).1 = .error (.raised .timedOut) := by
    unfold Program.evaluation
    rw [bound, body, evalBody]
    exact raises_bind_iff.2 (.inl begins)
  rw [program.run_eq, ended]
  rfl

end ScriptHost.Script
