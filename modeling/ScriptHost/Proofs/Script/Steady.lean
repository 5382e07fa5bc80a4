import ScriptHost.Script.Eval
/-!
Properties of an evaluation that its steps have.

A property is `Steady` if every elementary step but a throw has it, and steps one after another keep it. Then every
operation on values has it too.
-/

namespace ScriptHost.Script

namespace Run

/-- What every elementary step but a throw has, and steps one after another keep. -/
structure Steady (P : ∀ ⦃α : Type⦄, Run α → Prop) : Prop where
  pure {α : Type} (a : α) : P (Pure.pure a : Run α)
  bind {α β : Type} {x : Run α} {f : α → Run β} (hx : P x) (hf : ∀ a, P (f a)) : P (x >>= f)
  raise {α : Type} {r : Raised} (h : ∀ v p, r.root ≠ .thrown v p) : P (Run.raise r : Run α)
  exit {α : Type} {e : Exit} (h : ∀ r, e ≠ .raised r) : P (throw e : Run α)
  attempt {α : Type} {x : Run α} (hx : P x) : P (Run.attempt x)
  proceed (n : Nat) : P (Run.proceed n)
  checkSteps (limits : Limits) (more : Nat) (p : Option Place) : P (Run.checkSteps limits more p)
  spin {α : Type} (limits : Limits) (p : Place) : P (Run.spin limits p : Run α)
  lookup? (s : String) : P (Run.lookup? s)
  assign (s : String) (v : Value) (fixed : Option Value) : P (Run.assign s v fixed)
  bring (s : String) (v : Value) (fixed : Option Value) : P (Run.bring s v fixed)
  checkRoom (limits : Limits) (more : Nat) (p : Place) : P (Run.checkRoom limits more p)
  print (o : Output) : P (Run.print o)

variable {α β : Type} {P : ∀ ⦃α : Type⦄, Run α → Prop}

namespace Steady

variable (h : Steady P)

include h

theorem fail (f : Fault) (p : Place) : P (Run.fail f p : Run α) := h.raise fun _ _ e => by cases e

theorem exceed (e : Excess) (p : Option Place) : P (Run.raise (.exceeded e p) : Run α) :=
  h.raise fun _ _ e => by cases e

theorem timeOut : P (Run.raise .timedOut : Run α) := h.raise fun _ _ e => by cases e

theorem panic (text : String) : P (Run.raise (.panicked text) : Run α) := h.raise fun _ _ e => by cases e

/-- What comes after a step that is only taken on a condition. -/
theorem bindIf {p : Prop} [Decidable p] {x : Run Unit} {f : Unit → Run β} (hx : P x) (hf : P (f ())) :
    P (if p then x >>= f else f ()) := by
  split
  · exact h.bind hx fun _ => hf
  · exact hf

theorem ofExcept (p : Place) (e : Except Fault α) : P (Run.ofExcept p e) := by
  cases e with
  | ok a => exact h.pure a
  | error f => exact h.fail f p

theorem tick (limits : Limits) (p : Option Place) : P (Run.tick limits p) :=
  h.bind (h.proceed 1) fun _ => h.checkSteps limits 0 p

theorem checkExtent (limits : Limits) (e : Value.Extent) (p : Place) : P (Run.checkExtent limits e p) := by
  unfold Run.checkExtent
  repeat' split
  all_goals first | exact h.exceed _ _ | exact h.pure ()

theorem sized (limits : Limits) (v : Value) (p : Place) : P (Run.sized limits v p) := by
  unfold Run.sized
  split
  case h_4 => exact h.pure _
  all_goals exact h.bind (h.checkExtent limits _ p) fun _ => h.pure _

/-- What an operation came to, if it is not too large. -/
theorem sizedOf (limits : Limits) (p : Place) (e : Except Fault Value) :
    P (do Run.sized limits (← Run.ofExcept p e) p : Run Value) :=
  h.bind (h.ofExcept p e) fun v => h.sized limits v p

/-! ## Operators and parts of values -/

variable (c : Context)

theorem read (s : String) (p : Place) : P (c.read s p) := by
  refine h.bind (h.lookup? s) fun x => ?_
  cases x with
  | some x => exact h.pure x
  | none =>
    dsimp only
    split
    · exact h.pure _
    · exact h.fail _ p

theorem truth (v : Value) (p : Place) : P (c.truth v p) := by
  cases v with
  | bool b => exact h.pure b
  | _ => exact h.fail _ p

theorem callOperator (op : Operator) (a b : Value) (p : Place) : P (c.callOperator op a b p) := by
  refine h.bind (h.tick c.limits p) fun _ => ?_
  split
  · exact h.sizedOf c.limits p _
  · split
    · exact h.bind (h.checkSteps c.limits _ p) fun _ => h.sizedOf c.limits p _
    · exact h.fail _ p

theorem operate (op : Operator) (a b : Value) (p : Place) : P (c.operate op a b p) := by
  unfold Context.operate
  split
  · exact h.sizedOf c.limits p _
  · exact h.callOperator c op a b p

theorem operateOne (op : Operator) (a : Value) (p : Place) : P (c.operateOne op a p) := by
  unfold Context.operateOne
  split
  · exact h.ofExcept p _
  · exact h.bind (h.tick c.limits p) fun _ => h.fail _ p

theorem spell (v : Value) : P (c.spell v) := by
  cases v with
  | str s => exact h.pure s
  | _ =>
    refine h.bind (h.attempt (h.checkSteps c.limits 1 none)) fun e => ?_
    cases e <;> exact h.pure _

theorem combine (op : Option Operator) (old new : Value) (p : Place) : P (c.combine op old new p) := by
  cases op with
  | none => exact h.pure new
  | some op =>
    unfold Context.combine
    dsimp only
    split
    -- only a join of arrays is checked before the operator is applied; from there on the cases agree
    case' h_2 => refine h.bind (h.checkExtent c.limits _ p) fun _ => ?_
    all_goals
      split
      · refine h.bind (h.ofExcept p _) fun v => ?_
        split
        · exact h.pure _
        · exact h.sized c.limits _ p
      · exact h.bind (h.tick c.limits p) fun _ => h.sizedOf c.limits p _
      · exact h.bind (h.tick c.limits p) fun _ => h.callOperator c _ _ _ p

theorem pointer (v : Value) (p : Place) : P (c.pointer v p) := by
  unfold Context.pointer
  split
  · split
    · exact h.pure _
    · split
      · exact h.exceed _ _
      · exact h.fail _ p
  · exact h.fail _ p

theorem itemAt (v i : Value) (p sign : Place) : P (c.itemAt v i p sign) := by
  refine h.bind (h.tick c.limits none) fun _ => ?_
  split
  · exact h.pure _
  · exact h.bind (h.tick c.limits sign) fun _ => h.fail _ sign
  · exact h.fail _ p

theorem propertyOf (v : Value) (s : String) (p sign : Place) : P (c.propertyOf v s p sign) := by
  refine h.bind (h.tick c.limits p) fun _ => ?_
  split
  · exact h.pure _
  · exact h.bind (h.tick c.limits sign) fun _ => h.fail _ p

end Steady

end Run

/-! ## Changes of values -/

/-- How a value is held if every change of it has a property. -/
def Hold.Calm (P : ∀ ⦃α : Type⦄, Run α → Prop) (k : Hold) : Prop := ∀ v, P (k.write v)

namespace Run.Steady

variable {P : ∀ ⦃α : Type⦄, Run α → Prop} (h : Steady P) {k : Hold} (c : Context)

include h

theorem calm_loose : Hold.loose.Calm P := fun _ => h.pure ()

theorem calm_ofVariable (x : Variable) : (Hold.ofVariable x).Calm P := fun v => h.assign x.name v x.fixed

theorem calm_part (hk : k.Calm P) (t : HostType) (v index : Value) (p : Place) : (k.part t v index p).Calm P :=
  fun new => h.bind (h.ofExcept p (v.withItem t index new)) hk

theorem withMember (v i : Value) (hk : k.Calm P) : P (Context.withMember v i k) := by
  unfold Context.withMember
  split
  · split
    · exact h.bind (hk _) fun _ => h.pure _
    · exact h.pure _
  · exact h.pure _

theorem assignItem (o : Origin) (op : Option Operator) (v i new : Value) (hk : k.Calm P) (p q sign : Place) :
    P (c.assignItem o op v i new k p q sign) := by
  refine h.bind (h.tick c.limits none) fun _ => ?_
  split
  · refine h.bind (h.withMember v i hk) fun v => ?_
    have stores (old : Value) : P (do
        let x ← c.combine op old new p
        k.write (← Run.ofExcept p (v.withItem c.hostType i x))
        let _ ← Run.sized c.limits x p
        Pure.pure () : Run Unit) :=
      h.bind (h.combine c op old new p) fun x => h.bind (h.ofExcept p _) fun w => h.bind (hk w) fun _ =>
        h.bind (h.sized c.limits x p) fun _ => h.pure ()
    exact h.bindIf (h.fail _ _) (stores _)
  · exact h.bindIf (h.tick c.limits sign) (h.bind (h.tick c.limits sign) fun _ => h.fail _ sign)
  · exact h.fail _ q

theorem assignProperty (o : Origin) (op : Option Operator) (v : Value) (s : String) (new : Value) (hk : k.Calm P)
    (p q sign : Place) : P (c.assignProperty o op v s new k p q sign) := by
  have refuses (w : Value) : P (do
      Run.tick c.limits q
      Run.tick c.limits sign
      Run.fail (.propertyReadOnly s (v.typeName c.hostType) (w.typeName c.hostType)) q : Run Unit) :=
    h.bind (h.tick c.limits q) fun _ => h.bind (h.tick c.limits sign) fun _ => h.fail _ q
  unfold Context.assignProperty
  split
  · refine h.bind (h.tick c.limits none) fun _ => h.bind (h.withMember _ _ hk) fun v => ?_
    have stores (old : Value) : P (do
        let x ← c.combine op old new p
        let v ← Run.ofExcept p (v.withItem c.hostType (.str s) x)
        k.write v
        let _ ← Run.sized c.limits v p
        Pure.pure () : Run Unit) :=
      h.bind (h.combine c op old new p) fun x => h.bind (h.ofExcept p _) fun w => h.bind (hk w) fun _ =>
        h.bind (h.sized c.limits w p) fun _ => h.pure ()
    exact h.bindIf (h.fail _ _) (stores _)
  · split
    · exact h.bind (h.pure new) refuses
    · exact h.bind (h.propertyOf c v s q sign) fun _ => h.bind (h.combine c _ _ new p) refuses

/-- A call of a function that no script defines, unless a function of the host raises a text. -/
theorem callOuter (f : String) (vs : List Value) (hk : k.Calm P) (p : Place)
    (raised : ∀ s, reply c.api f vs = .raised s → P (Run.raise (.thrown (.str s) p) : Run Value)) :
    P (c.callOuter f vs k p) := by
  have checked : P (if k.isHeld then vs.head?.forM fun v => do let _ ← Run.sized c.limits v p else Pure.pure () :
      Run Unit) := by
    split
    · cases vs with
      | nil => exact h.pure ()
      | cons v vs => exact h.bind (h.sized c.limits v p) fun _ => h.pure ()
    · exact h.pure ()
  have prints (o : Output) : P (do
      if c.api.listens then Run.print o
      Pure.pure .unit : Run Value) := h.bindIf (h.print o) (h.pure _)
  refine h.bind (h.tick c.limits p) fun _ => ?_
  dsimp only
  cases replied : reply c.api f vs with
  | value v => exact h.bind (h.sized c.limits v p) fun v => h.bind checked fun _ => h.pure v
  | changed v result =>
    dsimp only
    split
    · exact h.fail _ p
    · exact h.bind (h.sized c.limits result p) fun _ => h.bind (h.sized c.limits v p) fun v =>
        h.bind (hk v) fun _ => h.pure _
  | fault e => exact h.fail e p
  | printed s => exact h.bind (h.sized c.limits _ p) fun _ => h.bind checked fun _ => prints _
  | debugged s => exact h.bind (h.sized c.limits _ p) fun _ => h.bind checked fun _ => prints _
  | raised s => exact raised s replied
  | panicked text => exact h.panic text

end Run.Steady

end ScriptHost.Script
