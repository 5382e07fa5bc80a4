import ScriptHost.Proofs.Script.Throwing
/-!
Every throw stands somewhere in the script.

`throws_of_raises` is the converse of `Throws.raises`: what the evaluation of a part raises with a thrown value
at its root is thrown somewhere in the part. What a part throws `StemsFrom` something that it comes to, unless it
calls a function, throws or catches itself; the rest is an induction on the depth.
-/

namespace ScriptHost.Script

open Run

/-- Whether no change that a part may make throws. -/
abbrev Part.IsCalm (t : Part) : Prop := t.Calm fun _ x => x.ThrowsNothing

/-- What a piece of an evaluation throws is thrown by something that a part has, which the piece comes to. -/
def Run.StemsFrom {α : Type} (y : Run α) (n : Nat) (c : Context) (t : Part) : Prop :=
  ∀ m (x : Throw), y.Raises m x.raised → ∃ t' m', t.Has t' ∧ t'.IsCalm ∧ (t'.run n c).ReachedFrom m' y m ∧
    (t'.run n c).Raises m' x.raised

variable {α β : Type} {n : Nat} {c : Context} {t t' : Part} {m : Machine} {x : Throw}

namespace Run.StemsFrom

variable {y : Run α}

theorem of_has (has : t.Has t') (calm : t'.IsCalm) : (t'.run n c).StemsFrom n c t :=
  fun m _ raised => ⟨t', m, has, calm, .here, raised⟩

theorem of_throwsNothing (h : y.ThrowsNothing) : y.StemsFrom n c t := fun m x raised => absurd raised (h m x)

theorem bind {f : α → Run β} (hy : y.StemsFrom n c t) (hf : ∀ a, (f a).StemsFrom n c t) :
    (y >>= f).StemsFrom n c t := by
  intro m x raised
  rcases raises_bind_iff.1 raised with raised | ⟨a, m₁, given, raised⟩
  · obtain ⟨t', m', has, calm, reached, raised⟩ := hy m x raised
    exact ⟨t', m', has, calm, .first reached, raised⟩
  · obtain ⟨t', m', has, calm, reached, raised⟩ := hf a m₁ x raised
    exact ⟨t', m', has, calm, .after given reached, raised⟩

theorem enclosed (hy : y.StemsFrom n c t) : (Run.enclosed y).StemsFrom n c t := by
  intro m x raised
  obtain ⟨t', m', has, calm, reached, raised⟩ := hy m x (raises_enclosed_iff.1 raised)
  exact ⟨t', m', has, calm, .enclosed reached, raised⟩

/-- Where what is raised is raised again, a throw stems from the attempt or from what follows it otherwise. -/
theorem attempted {f : Except Exit α → Run β} (hf : ∀ r, f (.error (.raised r)) = raise r) (hy : y.StemsFrom n c t)
    (ho : ∀ e, (∀ r, e ≠ .error (.raised r)) → (f e).StemsFrom n c t) : (attempt y >>= f).StemsFrom n c t := by
  intro m x raised
  have split : ((f (y.run m).1).run (y.run m).2).1 = .error (.raised x.raised) := raised
  by_cases passed : ∃ r, (y.run m).1 = .error (.raised r)
  · obtain ⟨r, ended⟩ := passed
    rw [ended, hf] at split
    obtain rfl : r = x.raised := raises_raise.1 split
    obtain ⟨t', m', has, calm, reached, raised⟩ := hy m x ended
    exact ⟨t', m', has, calm, .attempted hf reached, raised⟩
  · obtain ⟨t', m', has, calm, reached, raised⟩ := ho _ (fun r ended => passed ⟨r, ended⟩) _ x split
    exact ⟨t', m', has, calm, .after rfl reached, raised⟩

/-- What a part throws stems from something, if all that it comes to does. -/
theorem inherits (n : Nat) (c : Context) (t : Part) :
    t.Inherits (fun _ x => x.ThrowsNothing) (fun _ x => x.StemsFrom n c t) n c where
  pure a := of_throwsNothing (throwsNothing_pure a)
  bind := bind
  raise h := of_throwsNothing (throwsNothing_raise h)
  exit h := of_throwsNothing (throwsNothing_exit h)
  attempt _ := of_throwsNothing (throwsNothing_attempt _)
  proceed _ := of_throwsNothing (throwsNothing_modify _)
  checkSteps limits more p := of_throwsNothing (throwsNothing_checkSteps limits more p)
  spin limits p := of_throwsNothing (throwsNothing_spin limits p)
  lookup? s := of_throwsNothing (throwsNothing_lookup? s)
  assign _ _ _ := of_throwsNothing (throwsNothing_modify _)
  bring _ _ _ := of_throwsNothing (throwsNothing_modify _)
  checkRoom limits more p := of_throwsNothing (throwsNothing_checkRoom limits more p)
  print _ := of_throwsNothing (throwsNothing_modify _)
  small := steady_throwsNothing
  simple := of_throwsNothing
  has := of_has
  enclosed := enclosed
  attempted := attempted

end Run.StemsFrom

/-! ## Every throw -/

/-- Whether up to some depth what a part throws is thrown somewhere in it. -/
def Traced (n : Nat) : Prop :=
  ∀ (c : Context) (t : Part) (m : Machine) (x : Throw), t.IsCalm → (t.run n c).Raises m x.raised → Throws c n t m x

namespace Traced

theorem inside (h : Traced n) (plain : t.IsPlain) (calm : t.IsCalm) (raised : (t.run (n + 1) c).Raises m x.raised) :
    Throws c (n + 1) t m x := by
  obtain ⟨t', m', has, calm, reached, raised⟩ := (StemsFrom.inherits n c t).run plain calm m x raised
  exact .inside has reached (h c t' m' x calm raised)

variable {f : String} {vs : List Value} {k : Hold} {p : Place}

theorem method (h : Traced n) {v : Value} (calm : k.IsCalm)
    (raised : (callMethod (n + 1) c v f vs k p).Raises m x.raised) : Throws c (n + 1) (.method v f vs k p) m x := by
  cases found : c.function? f vs.length with
  | some g =>
    rw [callMethod, found] at raised
    exact .calledMethod found (h c (.function g vs p) m x trivial raised)
  | none =>
    rw [callMethod, found] at raised
    obtain ⟨m₁, s, begun, replied, rfl⟩ := replied_of_raises calm raised
    exact .hostMethod found begun replied

theorem applied (h : Traced n) (calm : k.IsCalm) (raised : (callFunction (n + 1) c f vs k p).Raises m x.raised) :
    Throws c (n + 1) (.applied f vs k p) m x := by
  cases found : c.function? f vs.length with
  | some g =>
    rw [callFunction, found] at raised
    exact .called found (h c (.function g vs p) m x trivial raised)
  | none =>
    rw [callFunction, found] at raised
    obtain ⟨m₁, s, begun, replied, rfl⟩ := replied_of_raises calm raised
    exact .host found begun replied

theorem function (h : Traced n) {g : Function} (raised : (runFunction (n + 1) c g vs p).Raises m x.raised) :
    Throws c (n + 1) (.function g vs p) m x := by
  obtain ⟨m₁, y, nonempty, begun, level, room, thrown, rfl⟩ := raises_function_iff.1 raised
  exact .function nonempty begun level room (h _ (.body g.body .unit) _ y trivial thrown)

/-- A statement throws the value that it is given, unless the value cannot be had for another throw. -/
theorem throw (h : Traced n) {value : Option Expr} (raised : (evalStmt (n + 1) c (.throw value p)).Raises m x.raised) :
    Throws c (n + 1) (.stmt (.throw value p)) m x := by
  rw [evalStmt] at raised
  rcases raises_bind_iff.1 raised with ticked | ⟨_, m₁, begun, raised⟩
  · exact absurd ticked (throwsNothing_tick _ _ _ _)
  rcases raises_bind_iff.1 raised with thrown | ⟨v, m₂, given, raised⟩
  · have reached : ((Part.optional value).run n c).ReachedFrom m₁ (evalStmt (n + 1) c (.throw value p)) m := by
      rw [evalStmt]
      exact .after begun (.first .here)
    exact .inside .thrown reached (h c (.optional value) m₁ x trivial thrown)
  · obtain rfl := Throw.eq_of_raised (raises_raise.1 raised).symm
    exact .statement begun given

theorem attempt (h : Traced n) {body handler : List Stmt} {q : Place} {binder : Option (String × Place)}
    (raised : (evalStmt (n + 1) c (.attempt body q binder handler p)).Raises m x.raised) :
    Throws c (n + 1) (.stmt (.attempt body q binder handler p)) m x := by
  obtain ⟨m₁, r, m₂, m₃, y, begun, failed, caught, received, thrown, concluded⟩ := raises_attempt_iff.1 raised
  have handled : Throws c n (.block handler) m₃ y := h c (.block handler) m₃ y trivial thrown
  rcases concluded with ⟨other, rfl⟩ | ⟨bare, z, rfl, rfl⟩
  · exact .handler begun failed caught received handled other
  · have attempted : (evalBlock n c body).Raises m₁ z.raised := by
      unfold Raises
      rw [failed]
    exact .again begun failed (h c (.block body) m₁ z trivial attempted) received handled bare

theorem stmt (h : Traced n) (s : Stmt) (raised : (evalStmt (n + 1) c s).Raises m x.raised) :
    Throws c (n + 1) (.stmt s) m x := by
  cases s with
  | throw => exact h.throw raised
  | attempt => exact h.attempt raised
  | _ => exact h.inside (t := .stmt _) trivial trivial raised

end Traced

theorem traced (n : Nat) : Traced n := by
  induction n with
  | zero => exact fun c t m x _ raised => absurd raised (steady_throwsNothing.run_zero c t m x)
  | succ n ih =>
    intro c t m x calm raised
    cases t with
    | method => exact ih.method calm raised
    | applied => exact ih.applied calm raised
    | function => exact ih.function raised
    | stmt s => exact ih.stmt s raised
    | _ => exact ih.inside trivial calm raised

/-- What a part throws is thrown somewhere in it. -/
theorem throws_of_raises (calm : t.IsCalm) (raised : (t.run n c).Raises m x.raised) : Throws c n t m x :=
  traced n c t m x calm raised

end ScriptHost.Script
