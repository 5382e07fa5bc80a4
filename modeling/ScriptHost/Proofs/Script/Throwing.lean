import ScriptHost.Proofs.Script.Parts
import ScriptHost.Proofs.Script.Raising
/-!
Where a throw stands.

A part of a script `Throws` if a statement in it does, or a function of the host that it calls, and nothing
between that and the part catches it. On its way out the throw leaves calls and passes handlers; only a call
leaves a mark on it, and a handler that throws again what it caught moves it. Every other construct lets it
pass: the part inside is `ReachedFrom` the part around it. Whatever is thrown in this sense is raised
(`Throws.raises`), and the calls that it left are of functions of the script (`Throws.exists_function`).
-/

namespace ScriptHost.Script

open Run

/-! ## What a part comes to -/

namespace Run

/-- A part is reached from another one, each on a machine of its own: what stands before it there goes well, and
what it raises, the other one raises. -/
inductive ReachedFrom {β : Type} (y : Run β) (k : Machine) : {α : Type} → Run α → Machine → Prop
  | here : ReachedFrom y k y k
  | first {α γ : Type} {x : Run α} {f : α → Run γ} {m : Machine} (h : ReachedFrom y k x m) : ReachedFrom y k (x >>= f) m
  | after {α γ : Type} {x : Run α} {f : α → Run γ} {a : α} {m m' : Machine} (hx : x.run m = (.ok a, m'))
      (h : ReachedFrom y k (f a) m') : ReachedFrom y k (x >>= f) m
  | enclosed {α : Type} {x : Run α} {m : Machine} (h : ReachedFrom y k x m) : ReachedFrom y k (enclosed x) m
  /-- an attempt of which what is raised is raised again -/
  | attempted {α γ : Type} {x : Run α} {f : Except Exit α → Run γ} {m : Machine}
      (hf : ∀ r, f (.error (.raised r)) = raise r) (h : ReachedFrom y k x m) : ReachedFrom y k (attempt x >>= f) m

variable {α β : Type} {x : Run α} {y : Run β} {m k : Machine} {r : Raised}

theorem raises_enclosed_iff : (enclosed x).Raises m r ↔ x.Raises m r := Iff.rfl

theorem run_attempt_bind (f : Except Exit α → Run β) :
    (attempt x >>= f).run m = (f (x.run m).1).run (x.run m).2 := rfl

theorem ReachedFrom.raises (h : y.ReachedFrom k x m) (hy : y.Raises k r) : x.Raises m r := by
  induction h with
  | here => exact hy
  | first _ ih => exact raises_bind_iff.2 (.inl ih)
  | after hx _ ih => exact raises_bind_iff.2 (.inr ⟨_, _, hx, ih⟩)
  | enclosed _ ih => exact raises_enclosed_iff.2 ih
  | @attempted _ _ x f m hf _ ih =>
    have ended : (x.run m).1 = .error (.raised r) := ih
    unfold Raises
    rw [run_attempt_bind, ended, hf]
    rfl

end Run

/-! ## Throws in a script -/

/-- Whether nothing is thrown: in a handler this throws again what was caught. -/
def Throw.IsBare (x : Throw) : Prop := x.value = .unit ∧ x.calls = []

/-- How a part of a script comes to throw something that it does not catch. -/
inductive Throws : Context → Nat → Part → Machine → Throw → Prop
  /-- a statement throws a value -/
  | statement {c n value v m m₁ m₂} {p : Place} (begun : (tick c.limits p).run m = (.ok (), m₁))
      (given : (evalOptional n c value).run m₁ = (.ok v, m₂)) :
      Throws c (n + 1) (.stmt (.throw value p)) m ⟨v, p, []⟩
  /-- a function of the host raises a text -/
  | host {c n f vs h m m₁ s} {p : Place} (foreign : c.function? f vs.length = none)
      (begun : (tick c.limits p).run m = (.ok (), m₁)) (replied : reply c.api f vs = .raised s) :
      Throws c (n + 1) (.applied f vs h p) m ⟨.str s, p, []⟩
  | hostMethod {c n v f vs h m m₁ s} {p : Place} (foreign : c.function? f vs.length = none)
      (begun : (tick c.limits p).run m = (.ok (), m₁)) (replied : reply c.api f (v :: vs) = .raised s) :
      Throws c (n + 1) (.method v f vs h p) m ⟨.str s, p, []⟩
  /-- something in a part throws -/
  | inside {c n t t' m m' x} (has : Part.Has t t') (reached : (t'.run n c).ReachedFrom m' (t.run (n + 1) c) m)
      (throws : Throws c n t' m' x) : Throws c (n + 1) t m x
  /-- what is called is a function of the script -/
  | called {c n f g vs h m x} {p : Place} (found : c.function? f vs.length = some g)
      (throws : Throws c n (.function g vs p) m x) : Throws c (n + 1) (.applied f vs h p) m x
  | calledMethod {c n v f g vs h m x} {p : Place} (found : c.function? f vs.length = some g)
      (throws : Throws c n (.function g vs p) m x) : Throws c (n + 1) (.method v f vs h p) m x
  /-- the throw leaves the call -/
  | function {c n g vs m m₁ x} {p : Place} (nonempty : g.body ≠ []) (begun : (tick c.limits p).run m = (.ok (), m₁))
      (level : c.level < c.limits.callLevels) (room : g.params.length ≤ c.limits.variableCount)
      (throws : Throws c.inner n (.body g.body .unit) { m₁ with scope := g.scope vs } x) :
      Throws c (n + 1) (.function g vs p) m (x.leaving g.name p)
  /-- a handler throws something else than what was caught -/
  | handler {c n body q binder handler m m₁ m₂ m₃ r x} {p : Place} (begun : (tick c.limits p).run m = (.ok (), m₁))
      (failed : (evalBlock n c body).run m₁ = (.error (.raised r), m₂)) (caught : r.isCatchable = true)
      (received : (c.receive r binder).run m₂ = (.ok (), m₃)) (throws : Throws c n (.block handler) m₃ x)
      (other : ¬ x.IsBare) : Throws c (n + 1) (.stmt (.attempt body q binder handler p)) m x
  /-- a handler throws again what was caught -/
  | again {c n body q binder handler m m₁ m₂ m₃ x y} {p : Place} (begun : (tick c.limits p).run m = (.ok (), m₁))
      (failed : (evalBlock n c body).run m₁ = (.error (.raised x.raised), m₂)) (thrown : Throws c n (.block body) m₁ x)
      (received : (c.receive x.raised binder).run m₂ = (.ok (), m₃)) (throws : Throws c n (.block handler) m₃ y)
      (bare : y.IsBare) : Throws c (n + 1) (.stmt (.attempt body q binder handler p)) m (x.moved y.place)

/-! ### Functions and handlers -/

namespace Run

variable {c : Context} {n : Nat} {m : Machine} {p : Place} {x : Throw}

theorem raises_leave_iff {f : String} {y : Run Value} {r : Raised} :
    (attempt y >>= leave f p).Raises m r ↔ ∃ s, y.Raises m s ∧ s.leaving f p = r := by
  have left : ((attempt y >>= leave f p).run m).1 = ((leave f p (y.run m).1).run (y.run m).2).1 := rfl
  unfold Raises
  rw [left]
  rcases (y.run m).1 with (s | _ | _ | _) | _
  case error.raised =>
    constructor
    · intro raised
      exact ⟨s, rfl, raises_raise.1 raised⟩
    · rintro ⟨_, ⟨⟩, rfl⟩
      rfl
  all_goals
    constructor
    · rintro ⟨⟩
    · rintro ⟨_, ⟨⟩, -⟩

/-- What a call of a function throws, its statements throw, and it has left the call. -/
theorem raises_function_iff {g : Function} {vs : List Value} : (runFunction (n + 1) c g vs p).Raises m x.raised ↔
    ∃ m₁ y, g.body ≠ [] ∧ (tick c.limits p).run m = (.ok (), m₁) ∧ c.level < c.limits.callLevels ∧
      g.params.length ≤ c.limits.variableCount ∧
      (evalBody n c.inner g.body .unit).Raises { m₁ with scope := g.scope vs } (Throw.raised y) ∧
      x = y.leaving g.name p := by
  constructor
  · intro raised
    by_cases runs : g.body ≠ [] ∧ c.level < c.limits.callLevels ∧ g.params.length ≤ c.limits.variableCount
    case neg => exact absurd raised (steady_throwsNothing.runFunction g vs runs m x)
    obtain ⟨nonempty, level, room⟩ := runs
    rw [runFunction_eq g vs nonempty level room] at raised
    rcases raises_bind_iff.1 raised with ticked | ⟨_, m₁, begun, left⟩
    · exact absurd ticked (throwsNothing_tick _ _ _ _)
    obtain ⟨r, thrown, wrapped⟩ := raises_leave_iff.1 left
    obtain ⟨y, rfl, rfl⟩ := Throw.exists_of_leaving wrapped
    exact ⟨m₁, y, nonempty, begun, level, room, thrown, rfl⟩
  · rintro ⟨m₁, y, nonempty, begun, level, room, raised, rfl⟩
    rw [runFunction_eq g vs nonempty level room]
    exact raises_bind_iff.2 (.inr ⟨(), m₁, begun, raises_leave_iff.2 ⟨_, raised, (y.raised_leaving _ _).symm⟩⟩)

theorem conclude_bare {z : Throw} (r : Raised) (h : z.IsBare) :
    conclude r (.error (.raised z.raised)) = raise (r.moved z.place) := by
  obtain ⟨v, q, calls⟩ := z
  obtain ⟨rfl, rfl⟩ : v = .unit ∧ calls = [] := h
  rfl

theorem conclude_other {z : Throw} (r : Raised) (h : ¬ z.IsBare) :
    conclude r (.error (.raised z.raised)) = raise z.raised := by
  obtain ⟨v, q, _ | ⟨call, calls⟩⟩ := z
  case nil =>
    cases v
    case unit => exact absurd ⟨rfl, rfl⟩ h
    all_goals rfl
  case cons => rfl

theorem raises_conclude_iff {y : Run Value} {r : Raised} :
    (attempt y >>= conclude r).Raises m x.raised ↔
      ∃ z : Throw, y.Raises m z.raised ∧
        (¬ z.IsBare ∧ x = z ∨ z.IsBare ∧ ∃ w : Throw, r = w.raised ∧ x = w.moved z.place) := by
  have concluded : ((attempt y >>= conclude r).run m).1 = ((conclude r (y.run m).1).run (y.run m).2).1 := rfl
  unfold Raises
  rw [concluded]
  constructor
  · intro raised
    -- a throw comes out only if one came out of the handler itself: then it is that one, or the caught one again
    obtain ⟨z, ended⟩ : ∃ z : Throw, (y.run m).1 = .error (.raised z.raised) := by
      revert raised
      generalize (y.run m).1 = e
      intro raised
      unfold conclude at raised
      split at raised
      · cases raised
      · rename_i q
        exact ⟨⟨.unit, q, []⟩, rfl⟩
      · exact ⟨x, raised⟩
    rw [ended] at raised
    refine ⟨z, ended, ?_⟩
    by_cases bare : z.IsBare
    · rw [conclude_bare r bare] at raised
      exact .inr ⟨bare, Throw.exists_of_moved (raises_raise.1 raised)⟩
    · rw [conclude_other r bare] at raised
      exact .inl ⟨bare, (Throw.raised_injective (raises_raise.1 raised)).symm⟩
  · rintro ⟨z, ended, ⟨other, rfl⟩ | ⟨bare, w, rfl, rfl⟩⟩
    · rw [ended, conclude_other r other]
      exact raises_raise.2 rfl
    · rw [ended, conclude_bare _ bare]
      exact raises_raise.2 (w.raised_moved _).symm

/-- What an attempt throws, its handler throws, or throws again. -/
theorem raises_attempt_iff {body handler : List Stmt} {q : Place} {binder : Option (String × Place)} :
    (evalStmt (n + 1) c (.attempt body q binder handler p)).Raises m x.raised ↔
      ∃ m₁ r m₂ m₃ y, (tick c.limits p).run m = (.ok (), m₁) ∧
        (evalBlock n c body).run m₁ = (.error (.raised r), m₂) ∧ r.isCatchable = true ∧
        (c.receive r binder).run m₂ = (.ok (), m₃) ∧ (evalBlock n c handler).Raises m₃ (Throw.raised y) ∧
        (¬ y.IsBare ∧ x = y ∨ y.IsBare ∧ ∃ z : Throw, r = z.raised ∧ x = z.moved y.place) := by
  rw [evalStmt_attempt]
  constructor
  · intro raised
    rcases raises_bind_iff.1 raised with ticked | ⟨_, m₁, begun, raised⟩
    · exact absurd ticked (throwsNothing_tick _ _ _ _)
    have handled : ((handle n c binder handler ((evalBlock n c body).run m₁).1).run
      ((evalBlock n c body).run m₁).2).1 = .error (.raised x.raised) := raised
    rcases failed : (evalBlock n c body).run m₁ with ⟨(r | _ | _ | _) | _, m₂⟩ <;> rw [failed] at handled
    case error.raised =>
      by_cases caught : r.isCatchable = true
      case neg =>
        rw [handle_uncaught n c binder handler caught] at handled
        obtain rfl : r = x.raised := raises_raise.1 handled
        exact absurd x.isCatchable_raised caught
      case pos =>
        rw [handle_caught n c binder handler caught] at handled
        obtain ⟨y, thrown, concluded⟩ := raises_conclude_iff.1 handled
        rcases raises_bind_iff.1 (raises_enclosed_iff.1 thrown) with bound | ⟨_, m₃, received, thrown⟩
        · exact absurd bound (steady_throwsNothing.receive c r binder m₂ y)
        · exact ⟨m₁, r, m₂, m₃, y, begun, failed, caught, received, thrown, concluded⟩
    all_goals cases handled
  · rintro ⟨m₁, r, m₂, m₃, y, begun, failed, caught, received, thrown, concluded⟩
    refine raises_bind_iff.2 (.inr ⟨(), m₁, begun, ?_⟩)
    have handled : (attempt (enclosed (c.receive r binder >>= fun _ => evalBlock n c handler)) >>= conclude r).Raises m₂
        x.raised :=
      raises_conclude_iff.2 ⟨y, raises_enclosed_iff.2 (raises_bind_iff.2 (.inr ⟨(), m₃, received, thrown⟩)), concluded⟩
    unfold Raises
    rw [run_attempt_bind, failed, handle_caught n c binder handler caught]
    exact handled

/-- A function of the host that raises a text throws it where it is called. -/
theorem raises_callOuter {f s : String} {vs : List Value} {m₁ : Machine} (h : Hold)
    (begun : (tick c.limits p).run m = (.ok (), m₁)) (replied : reply c.api f vs = .raised s) :
    (c.callOuter f vs h p).Raises m (.thrown (.str s) p) := by
  refine raises_bind_iff.2 (.inr ⟨(), m₁, begun, ?_⟩)
  dsimp only
  rw [replied]
  rfl

/-- A call of what no script defines throws only what a function of the host raises. -/
theorem replied_of_raises {f : String} {vs : List Value} {h : Hold} (hc : h.IsCalm)
    (raised : (c.callOuter f vs h p).Raises m x.raised) :
    ∃ m₁ s, (tick c.limits p).run m = (.ok (), m₁) ∧ reply c.api f vs = .raised s ∧ x = ⟨.str s, p, []⟩ := by
  by_cases quiet : ∀ s, reply c.api f vs ≠ .raised s
  case pos =>
    have nothing := steady_throwsNothing.callOuter c f vs hc p fun s replied => absurd replied (quiet s)
    exact absurd raised (nothing m x)
  obtain ⟨s, replied⟩ := Classical.not_forall_not.1 quiet
  rcases raises_bind_iff.1 raised with ticked | ⟨_, m₁, begun, raised⟩
  · exact absurd ticked (throwsNothing_tick _ _ _ _)
  dsimp only at raised
  rw [replied] at raised
  exact ⟨m₁, s, begun, replied, Throw.eq_of_raised (raises_raise.1 raised).symm⟩

end Run

/-- A part that throws raises the throw. -/
theorem Throws.raises {c : Context} {n : Nat} {t : Part} {m : Machine} {x : Throw} (h : Throws c n t m x) :
    (t.run n c).Raises m x.raised := by
  induction h with
  | @statement c n value v m m₁ m₂ p begun given =>
    change (evalStmt (n + 1) c (.throw value p)).Raises m (.thrown v p)
    rw [evalStmt]
    exact raises_bind_iff.2 (.inr ⟨_, _, begun, raises_bind_iff.2 (.inr ⟨_, _, given, rfl⟩)⟩)
  | @host c n f vs h m m₁ s p foreign begun replied =>
    change (callFunction (n + 1) c f vs h p).Raises m (.thrown (.str s) p)
    rw [callFunction, foreign]
    exact raises_callOuter h begun replied
  | @hostMethod c n v f vs h m m₁ s p foreign begun replied =>
    change (callMethod (n + 1) c v f vs h p).Raises m (.thrown (.str s) p)
    rw [callMethod, foreign]
    exact raises_callOuter h begun replied
  | inside has reached _ ih => exact reached.raises ih
  | @called c n f g vs h m x p found _ ih =>
    change (callFunction (n + 1) c f vs h p).Raises m x.raised
    rw [callFunction, found]
    exact ih
  | @calledMethod c n v f g vs h m x p found _ ih =>
    change (callMethod (n + 1) c v f vs h p).Raises m x.raised
    rw [callMethod, found]
    exact ih
  | function nonempty begun level room _ ih =>
    exact raises_function_iff.2 ⟨_, _, nonempty, begun, level, room, ih, rfl⟩
  | handler begun failed caught received _ other ih =>
    exact raises_attempt_iff.2 ⟨_, _, _, _, _, begun, failed, caught, received, ih, .inl ⟨other, rfl⟩⟩
  | again begun failed _ received _ bare _ ih =>
    exact raises_attempt_iff.2 ⟨_, _, _, _, _, begun, failed, Throw.isCatchable_raised _, received, ih,
      .inr ⟨bare, _, rfl, rfl⟩⟩

/-- What a throw left are calls of functions of the script. -/
theorem Throws.exists_function {c : Context} {n : Nat} {t : Part} {m : Machine} {x : Throw} (h : Throws c n t m x)
    (own : ∀ g vs p, t = .function g vs p → g ∈ c.functions) :
    ∀ call ∈ x.calls, ∃ g ∈ c.functions, g.name = call.function := by
  induction h with
  | statement | host | hostMethod => exact fun _ hc => absurd hc List.not_mem_nil
  | inside has _ _ ih => exact ih fun _ _ _ same => by cases same; cases has
  | called found _ ih | calledMethod found _ ih =>
    exact ih fun _ _ _ same => by cases same; exact List.mem_of_find?_eq_some found
  | function _ _ _ _ _ ih =>
    intro call hc
    rcases List.mem_cons.1 hc with rfl | hc
    · exact ⟨_, own _ _ _ rfl, rfl⟩
    · exact ih (fun _ _ _ same => by cases same) call hc
  | handler _ _ _ _ _ _ ih => exact ih fun _ _ _ same => by cases same
  | again _ _ _ _ _ _ ih =>
    intro call hc
    obtain ⟨other, ho, same⟩ := Throw.exists_of_mem_moved hc
    exact same ▸ ih (fun _ _ _ same => by cases same) other ho

end ScriptHost.Script
