import ScriptHost.Proofs.Script.Steady
/-!
What is raised, and what raises nothing but faults and excesses.

A `Throw` is a throw that nothing caught: the value, the place where it was thrown, and the calls of
functions that it left since. `Throw.raised` is the error that it is by then. Of all that an evaluation is
made of, only two steps throw: the statement that does so, and a call of a function of the host that
raises. Everything else `ThrowsNothing`, whatever else it may raise.
-/

namespace ScriptHost.Script

variable {α β : Type}

/-! ## Throws -/

/-- A call of a function of the script: its name, and where it is called. -/
structure Call where
  function : String
  place : Place
deriving DecidableEq, Repr

/-- A throw that is not caught: what was thrown, where, and the calls that it left since, the last one
first. -/
structure Throw where
  value : Value
  place : Place
  calls : List Call

namespace Throw

/-- The error that a throw is: the thrown value, wrapped with each call that it left. -/
def raised (x : Throw) : Raised :=
  x.calls.foldr (fun call cause => .call call.function cause call.place) (.thrown x.value x.place)

/-- The throw once it left one more call. -/
def leaving (f : String) (p : Place) (x : Throw) : Throw := { x with calls := ⟨f, p⟩ :: x.calls }

/-- The throw that something raised is, if it has a thrown value at its root. -/
def ofRaised? : Raised → Option Throw
  | .thrown v p => some ⟨v, p, []⟩
  | .call f cause p => (ofRaised? cause).map (leaving f p)
  | .fault .. | .exceeded .. | .timedOut | .panicked _ => none

/-- The throw once a handler threw it again: this is then the place of the last call that it left, or its own
place if it left none. -/
def moved (p : Place) (x : Throw) : Throw :=
  match x.calls with
  | [] => { x with place := p }
  | call :: calls => { x with calls := { call with place := p } :: calls }

variable {x y : Throw} {r : Raised}

theorem isCatchable_raised (x : Throw) : x.raised.isCatchable = true := by
  obtain ⟨v, p, _ | ⟨call, calls⟩⟩ := x <;> rfl

theorem raised_leaving (f : String) (p : Place) (x : Throw) : (x.leaving f p).raised = x.raised.leaving f p := by
  rw [Raised.leaving, if_pos x.isCatchable_raised]
  rfl

theorem raised_moved (p : Place) (x : Throw) : (x.moved p).raised = x.raised.moved p := by
  obtain ⟨v, q, _ | ⟨call, calls⟩⟩ := x <;> rfl

theorem exists_of_mem_moved {p : Place} {call : Call} (h : call ∈ (x.moved p).calls) :
    ∃ other ∈ x.calls, other.function = call.function := by
  obtain ⟨v, q, _ | ⟨first, calls⟩⟩ := x
  case nil => exact absurd h List.not_mem_nil
  case cons =>
    rcases List.mem_cons.1 h with rfl | later
    · exact ⟨first, List.mem_cons_self, rfl⟩
    · exact ⟨call, List.mem_cons_of_mem _ later, rfl⟩

theorem ofRaised?_raised (x : Throw) : ofRaised? x.raised = some x := by
  obtain ⟨v, p, calls⟩ := x
  induction calls with
  | nil => rfl
  | cons call calls ih => exact congrArg (Option.map (leaving call.function call.place)) ih

theorem raised_injective : Function.Injective raised := by
  intro x y same
  have found := congrArg ofRaised? same
  rw [ofRaised?_raised, ofRaised?_raised] at found
  exact Option.some.inj found

theorem ofRaised?_eq_some_iff : ofRaised? r = some x ↔ r = x.raised := by
  constructor
  · intro found
    induction r generalizing x with
    | thrown v p =>
      obtain rfl := Option.some.inj found
      rfl
    | call f cause p ih =>
      obtain ⟨y, within, rfl⟩ := Option.map_eq_some_iff.1 found
      rw [ih within]
      rfl
    | fault | exceeded | timedOut | panicked => cases found
  · rintro rfl
    exact x.ofRaised?_raised

/-- A throw that is not wrapped left no call. -/
theorem eq_of_raised {v : Value} {p : Place} (h : x.raised = .thrown v p) : x = ⟨v, p, []⟩ := raised_injective h

theorem root_raised (x : Throw) : x.raised.root = .thrown x.value x.place := by
  obtain ⟨v, p, calls⟩ := x
  induction calls with
  | nil => rfl
  | cons call calls ih => exact ih

/-- Whatever has a thrown value at its root is a throw. -/
theorem exists_of_root {v : Value} {p : Place} (h : r.root = .thrown v p) : ∃ calls, r = raised ⟨v, p, calls⟩ := by
  induction r with
  | thrown => exact ⟨[], h⟩
  | call f cause q ih =>
    obtain ⟨calls, rfl⟩ := ih h
    exact ⟨⟨f, q⟩ :: calls, rfl⟩
  | fault | exceeded | timedOut | panicked => cases h

/-- What is a throw once it left a call was one before. -/
theorem exists_of_leaving {f : String} {p : Place} (h : r.leaving f p = x.raised) :
    ∃ y : Throw, r = y.raised ∧ x = y.leaving f p := by
  have caught : (r.leaving f p).isCatchable = true := h ▸ x.isCatchable_raised
  have rooted : (r.leaving f p).root = .thrown x.value x.place := h ▸ x.root_raised
  obtain ⟨v, q, calls, rfl⟩ : ∃ v q calls, r = raised ⟨v, q, calls⟩ := by
    cases r with
    | thrown | fault | call => exact ⟨_, _, exists_of_root rooted⟩
    | exceeded | timedOut | panicked => cases caught
  exact ⟨_, rfl, raised_injective (h.symm.trans (raised_leaving f p _).symm)⟩

/-- What is a throw at its new place was one before. -/
theorem exists_of_moved {q : Place} (h : r.moved q = x.raised) : ∃ y : Throw, r = y.raised ∧ x = y.moved q := by
  have rooted : (r.moved q).root = .thrown x.value x.place := h ▸ x.root_raised
  obtain ⟨v, p, calls, rfl⟩ : ∃ v p calls, r = raised ⟨v, p, calls⟩ := by
    cases r with
    | thrown v p => exact ⟨v, p, [], rfl⟩
    | call f cause p =>
      obtain ⟨calls, rfl⟩ := exists_of_root (r := cause) rooted
      exact ⟨_, _, ⟨f, p⟩ :: calls, rfl⟩
    | fault | exceeded | timedOut | panicked => cases rooted
  exact ⟨_, rfl, raised_injective (h.symm.trans (raised_moved q _).symm)⟩

end Throw

/-! ## Parts that throw nothing -/

namespace Run

/-- Whether a part that starts on a machine raises something. -/
def Raises (x : Run α) (m : Machine) (r : Raised) : Prop := (x.run m).1 = .error (.raised r)

/-- A part that never ends with a throw, though it may end with a fault or an excess. -/
def ThrowsNothing (x : Run α) : Prop := ∀ m (t : Throw), ¬ x.Raises m t.raised

variable {x : Run α} {f : α → Run β} {m m' : Machine} {r : Raised} {a : α}

/-- What follows a part of an evaluation that goes on. -/
theorem run_bind_of_ok (h : x.run m = (.ok a, m')) (f : α → Run β) : (x >>= f).run m = (f a).run m' := by
  have bound : (x >>= f).run m = ExceptT.bindCont f (x.run m).1 (x.run m).2 := rfl
  rw [bound, h]
  rfl

/-- What two parts one after the other raise is raised by the first one, or by the second one if that is reached. -/
theorem raises_bind_iff :
    (x >>= f).Raises m r ↔ x.Raises m r ∨ ∃ a m', x.run m = (.ok a, m') ∧ (f a).Raises m' r := by
  have bound : (x >>= f).run m = ExceptT.bindCont f (x.run m).1 (x.run m).2 := rfl
  unfold Raises
  rw [bound]
  rcases hx : x.run m with ⟨a | a, m'⟩
  · constructor
    · rintro ⟨⟩
      exact .inl rfl
    · rintro (⟨⟨⟩⟩ | ⟨_, _, ⟨⟩, -⟩)
      rfl
  · constructor
    · intro raised
      exact .inr ⟨a, m', rfl, raised⟩
    · rintro (⟨⟨⟩⟩ | ⟨_, _, ⟨⟩, raised⟩)
      exact raised

theorem raises_raise {s : Raised} : (raise s : Run α).Raises m r ↔ s = r := by
  have ended : ((raise s : Run α).run m).1 = .error (.raised s) := rfl
  unfold Raises
  rw [ended]
  simp

theorem ThrowsNothing.bind (hx : x.ThrowsNothing) (hf : ∀ a, (f a).ThrowsNothing) : (x >>= f).ThrowsNothing := by
  intro m t h
  rcases raises_bind_iff.1 h with h | ⟨a, m', -, h⟩
  · exact hx m t h
  · exact hf a m' t h

theorem throwsNothing_pure (a : α) : (pure a : Run α).ThrowsNothing := fun _ _ h => by cases h

theorem throwsNothing_modify (f : Machine → Machine) : (modify f : Run Unit).ThrowsNothing := fun _ _ h => by cases h

/-- What has no thrown value at its root is no throw. -/
theorem throwsNothing_raise (h : ∀ v p, r.root ≠ .thrown v p) : (raise r : Run α).ThrowsNothing := by
  intro m t raised
  obtain rfl := raises_raise.1 raised
  exact h _ _ t.root_raised

theorem throwsNothing_exit {e : Exit} (h : ∀ r, e ≠ .raised r) : (throw e : Run α).ThrowsNothing :=
  fun _ _ raised => h _ (Except.error.inj raised)

theorem throwsNothing_attempt (x : Run α) : (attempt x).ThrowsNothing := fun _ _ h => by cases h

theorem throwsNothing_checkSteps (limits : Limits) (more : Nat) (p : Option Place) :
    (checkSteps limits more p).ThrowsNothing := by
  refine ThrowsNothing.bind (fun _ _ h => by cases h) fun m => ?_
  split
  · exact throwsNothing_raise fun _ _ h => by cases h
  · split
    · exact throwsNothing_raise fun _ _ h => by cases h
    · exact throwsNothing_pure ()

theorem throwsNothing_spin (limits : Limits) (p : Place) : (spin limits p : Run α).ThrowsNothing := by
  refine ThrowsNothing.bind (fun _ _ h => by cases h) fun m => (throwsNothing_modify _).bind fun _ => ?_
  split <;> exact throwsNothing_raise fun _ _ h => by cases h

theorem throwsNothing_lookup? (s : String) : (lookup? s).ThrowsNothing :=
  ThrowsNothing.bind (fun _ _ h => by cases h) fun _ => throwsNothing_pure _

theorem throwsNothing_checkRoom (limits : Limits) (more : Nat) (p : Place) :
    (checkRoom limits more p).ThrowsNothing := by
  refine ThrowsNothing.bind (fun _ _ h => by cases h) fun m => ?_
  split
  · exact throwsNothing_raise fun _ _ h => by cases h
  · exact throwsNothing_pure ()

/-- Only a throw throws, so what is made of other steps does not. -/
theorem steady_throwsNothing : Steady fun _ x => x.ThrowsNothing where
  pure := throwsNothing_pure
  bind := ThrowsNothing.bind
  raise := throwsNothing_raise
  exit := throwsNothing_exit
  attempt _ := throwsNothing_attempt _
  proceed _ := throwsNothing_modify _
  checkSteps := throwsNothing_checkSteps
  spin := throwsNothing_spin
  lookup? := throwsNothing_lookup?
  assign _ _ _ := throwsNothing_modify _
  bring _ _ _ := throwsNothing_modify _
  checkRoom := throwsNothing_checkRoom
  print _ := throwsNothing_modify _

theorem throwsNothing_tick (limits : Limits) (p : Option Place) : (tick limits p).ThrowsNothing :=
  steady_throwsNothing.tick limits p

end Run

/-- How a value is held if no change of it throws. -/
abbrev Hold.IsCalm (k : Hold) : Prop := k.Calm fun _ x => x.ThrowsNothing

end ScriptHost.Script
