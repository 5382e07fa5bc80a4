import ScriptHost.Proofs.Script.Steady
/-!
What an evaluation is made of.

A `Part` is a call of one function of the evaluation; `Part.Has` says which other parts it comes to. A part
`Inherits` a property that they have, by its own form (`Inherits.run`), save for the few parts that call functions,
throw or catch.
-/

namespace ScriptHost.Script

open Run

/-! ## Parts of an evaluation -/

/-- A part of an evaluation: what is evaluated or run, and what it works on. -/
inductive Part where
  | expr (e : Expr)
  | texts (es : List Expr) (taken : String)
  | conditions (sought : Bool) (es : List Expr)
  | operation (e : Expr)
  | items (es : List Expr) (total : Value.Extent)
  | members (ms : List (String × Expr)) (total : Value.Extent)
  | arg (e : Expr)
  | args (es : List Expr)
  | link (l : Link)
  | links (ls : List Link)
  | steps (ls : List Link)
  | walk (v : Value) (h : Hold) (ss : List Stride)
  | store (o : Origin) (op : Option Operator) (v new : Value) (h : Hold) (p : Place) (ss : List Stride)
  /-- a method of a value on arguments -/
  | method (v : Value) (f : String) (args : List Value) (h : Hold) (p : Place)
  /-- the function of a name on arguments -/
  | applied (f : String) (args : List Value) (h : Hold) (p : Place)
  | call (f : String) (args : List Expr) (p : Place)
  /-- a function of the script on arguments -/
  | function (g : Function) (args : List Value) (p : Place)
  | optional (e : Option Expr)
  | assign (target : Expr) (op : Option Operator) (new : Value) (p : Place)
  | stmt (s : Stmt)
  | block (body : List Stmt)
  | body (ss : List Stmt) (last : Value)
  | loop (guard : Option Expr) (body : List Stmt) (q : Place)
  | each (s : String) (counter : Option String) (supply : Supply) (count : Nat) (body : List Stmt) (q : Place)

namespace Part

/-- What a part gives. -/
abbrev Result : Part → Type
  | texts .. => String
  | conditions .. => Bool
  | items .. | args .. => List Value
  | members .. => List (String × Value)
  | link .. => Stride
  | links .. | steps .. => List Stride
  | store .. | assign .. => Unit
  | _ => Value

/-- How a part is evaluated. -/
def run : (t : Part) → Nat → Context → Run t.Result
  | .expr e, n, c => evalExpr n c e
  | .texts es taken, n, c => evalParts n c es taken
  | .conditions sought es, n, c => evalUntil n c sought es
  | .operation e, n, c => perform n c e
  | .items es total, n, c => evalItems n c es total
  | .members ms total, n, c => evalMembers n c ms total
  | .arg e, n, c => evalArg n c e
  | .args es, n, c => evalArgs n c es
  | .link l, n, c => evalLink n c l
  | .links ls, n, c => evalLinks n c ls
  | .steps ls, n, c => evalSteps n c ls
  | .walk v h ss, n, c => Script.walk n c v h ss
  | .store o op v new h p ss, n, c => Script.store n c o op v new h p ss
  | .method v f vs h p, n, c => callMethod n c v f vs h p
  | .applied f vs h p, n, c => callFunction n c f vs h p
  | .call f es p, n, c => evalCall n c f es p
  | .function g vs p, n, c => runFunction n c g vs p
  | .optional e, n, c => evalOptional n c e
  | .assign target op new p, n, c => evalAssign n c target op new p
  | .stmt s, n, c => evalStmt n c s
  | .block ss, n, c => evalBlock n c ss
  | .body ss last, n, c => evalBody n c ss last
  | .loop guard ss q, n, c => evalLoop n c guard ss q
  | .each s counter supply count ss q, n, c => evalEach n c s counter supply count ss q

/-- What a part consists of, but for what it calls. The values that a part works on come from the parts before it. -/
inductive Has : Part → Part → Prop
  | texts {es p} : Has (.expr (.interpolated es p)) (.texts es "")
  | text {e es taken} : Has (.texts (e :: es) taken) (.expr e)
  | laterTexts {e es taken} (now) : Has (.texts (e :: es) taken) (.texts es now)
  | items {es p} : Has (.expr (.array es p)) (.items es ⟨0, 0, 0⟩)
  | members {ms p} : Has (.expr (.map ms p)) (.members ms ⟨0, 0, 0⟩)
  | both {es p} : Has (.expr (.both es p)) (.conditions false es)
  | either {es p} : Has (.expr (.either es p)) (.conditions true es)
  | steps {root ls} : Has (.expr (.chain root ls)) (.steps ls)
  | root {root ls} : Has (.expr (.chain root ls)) (.expr root)
  | walk {root ls} (v h ss) : Has (.expr (.chain root ls)) (.walk v h ss)
  | blockExpr {body p} : Has (.expr (.block body p)) (.block body)
  | operation {e} : Has (.expr e) (.operation e)
  | condition {b e es} : Has (.conditions b (e :: es)) (.expr e)
  | conditions {b e es} : Has (.conditions b (e :: es)) (.conditions b es)
  | item {e es total} : Has (.items (e :: es) total) (.expr e)
  | laterItems {e es total} (now) : Has (.items (e :: es) total) (.items es now)
  | member {k e ms total} : Has (.members ((k, e) :: ms) total) (.expr e)
  | laterMembers {k e ms total} (now) : Has (.members ((k, e) :: ms) total) (.members ms now)
  | call {f es p} : Has (.operation (.call f es p)) (.call f es p)
  | operand {op e p} : Has (.operation (.unary op e p)) (.arg e)
  | left {op l r p} : Has (.operation (.binary op l r p)) (.arg l)
  | right {op l r p} : Has (.operation (.binary op l r p)) (.arg r)
  | otherwise {e} : Has (.operation e) (.expr e)
  | argument {e} : Has (.arg e) (.expr e)
  | arg {e es} : Has (.args (e :: es)) (.arg e)
  | laterArgs {e es} : Has (.args (e :: es)) (.args es)
  | index {e sign} : Has (.link (.index e sign)) (.expr e)
  | methodArgs {f es p sign} : Has (.link (.method f es p sign)) (.args es)
  | link {l ls} : Has (.links (l :: ls)) (.link l)
  | laterLinks {l ls} : Has (.links (l :: ls)) (.links ls)
  | links {ls} : Has (.steps ls) (.links ls)
  | onward {v h s ss} (v' h') : Has (.walk v h (s :: ss)) (.walk v' h' ss)
  | method {v h f args p ss} : Has (.walk v h (.method f args p :: ss)) (.method v f args h p)
  | storeOnward {o op v new h p s ss} (v' h') : Has (.store o op v new h p (s :: ss)) (.store o op v' new h' p ss)
  | storeMethod {o op v new h p f args q ss} :
      Has (.store o op v new h p (.method f args q :: ss)) (.method v f args h q)
  | pointed {f e p} : Has (.call f [e] p) (.arg e)
  | callArgs {f es p} : Has (.call f es p) (.args es)
  | laterCallArgs {f e es p} : Has (.call f (e :: es) p) (.args es)
  | applied {f es p} (vs h) : Has (.call f es p) (.applied f vs h p)
  | optional {e} : Has (.optional (some e)) (.expr e)
  | assignSteps {s q ls op new p} : Has (.assign (.chain (.name s q) ls) op new p) (.steps ls)
  | assignStore {s q ls op new p} (v h ss) :
      Has (.assign (.chain (.name s q) ls) op new p) (.store ⟨s, q⟩ op v new h p ss)
  | exprStmt {e} : Has (.stmt (.expr e)) (.expr e)
  | performStmt {e} : Has (.stmt (.perform e)) (.operation e)
  | defined {constant reuse s value p} : Has (.stmt (.define constant reuse s value p)) (.optional value)
  | assigned {target op value p} : Has (.stmt (.assign target op value p)) (.expr value)
  | assign {target op value p} (v) : Has (.stmt (.assign target op value p)) (.assign target op v p)
  | blockStmt {body p} : Has (.stmt (.block body p)) (.block body)
  | guard {guard body q orElse r p} : Has (.stmt (.branch guard body q orElse r p)) (.expr guard)
  | branch {guard body q orElse r p} : Has (.stmt (.branch guard body q orElse r p)) (.block body)
  | orElse {guard body q orElse r p} : Has (.stmt (.branch guard body q orElse r p)) (.block orElse)
  | loop {guard body q p} : Has (.stmt (.loop guard body q p)) (.loop guard body q)
  | supply {s sp counter items body q p} : Has (.stmt (.each s sp counter items body q p)) (.expr items)
  | each {s sp counter items body q p} (supply) :
      Has (.stmt (.each s sp counter items body q p)) (.each s counter supply 0 body q)
  | leave {value p} : Has (.stmt (.leave value p)) (.optional value)
  | yield {value p} : Has (.stmt (.yield value p)) (.optional value)
  | thrown {value p} : Has (.stmt (.throw value p)) (.optional value)
  | path {path p} : Has (.stmt (.load path p)) (.expr path)
  | body {body} : Has (.block body) (.body body .unit)
  | stmt {s ss last} : Has (.body (s :: ss) last) (.stmt s)
  | laterStmts {s ss last} (v) : Has (.body (s :: ss) last) (.body ss v)
  | loopGuard {e body q} : Has (.loop (some e) body q) (.expr e)
  | loopBody {guard body q} : Has (.loop guard body q) (.block body)
  | loopAgain {guard body q} : Has (.loop guard body q) (.loop guard body q)
  | eachBody {s counter supply count body q} : Has (.each s counter supply count body q) (.block body)
  | eachAgain {s counter supply count body q} (rest) :
      Has (.each s counter supply count body q) (.each s counter rest (count + 1) body q)

end Part

/-! ## Functions, handlers and loops -/

/-- A function of the script as it is entered: its parameters stand for the arguments. -/
def Function.scope (g : Function) (vs : List Value) : List Variable :=
  ((g.params.zip vs).map fun a => ⟨a.1, a.2, none⟩).reverse

/-- The context of what a function does. -/
def Context.inner (c : Context) : Context := { c with level := c.level + 1 }

/-- What comes before a handler: what was caught gets the name that the handler has for it. -/
def Context.receive (c : Context) (r : Raised) : Option (String × Place) → Run Unit
  | some (s, q) => do
    Run.checkRoom c.limits 1 q
    Run.bring s (r.caught c.hostType) none
  | none => pure ()

namespace Run

variable {n : Nat} {c : Context} {p : Place}

/-- What comes after the statements of a function. -/
def leave (f : String) (p : Place) : Except Exit Value → Run Value
  | .ok v | .error (.returned v) => pure v
  | .error (.raised r) => raise (r.leaving f p)
  | .error e => throw e

theorem runFunction_eq (g : Function) (vs : List Value) (nonempty : g.body ≠ []) (level : c.level < c.limits.callLevels)
    (room : g.params.length ≤ c.limits.variableCount) : runFunction (n + 1) c g vs p = (do
      tick c.limits p
      attempt (apart (g.scope vs) (evalBody n c.inner g.body .unit)) >>= leave g.name p) := by
  have runs : ¬ g.body.isEmpty = true := fun h => nonempty (List.isEmpty_iff.1 h)
  rw [runFunction, if_neg runs]
  refine congrArg (tick c.limits p >>= ·) (funext fun _ => ?_)
  dsimp only
  rw [if_neg (Nat.not_le.2 level), if_neg (Nat.not_lt.2 room)]
  refine congrArg (attempt _ >>= ·) (funext fun e => ?_)
  rcases e with (_ | _ | _ | _) | _ <;> rfl

/-- What comes after a handler of what was caught. -/
def conclude (r : Raised) : Except Exit Value → Run Value
  | .ok _ => pure .unit
  | .error (.raised (.thrown .unit q)) => raise (r.moved q)
  | .error e => throw e

/-- What is done about what the statements of an attempt came to. -/
def handle (n : Nat) (c : Context) (binder : Option (String × Place)) (handler : List Stmt) :
    Except Exit Value → Run Value
  | .ok v => pure v
  | .error (.raised r) =>
    if r.isCatchable then attempt (enclosed (c.receive r binder >>= fun _ => evalBlock n c handler)) >>= conclude r
    else raise r
  | .error e => throw e

theorem handle_caught (n : Nat) (c : Context) (binder : Option (String × Place)) (handler : List Stmt) {r : Raised}
    (h : r.isCatchable = true) : handle n c binder handler (.error (.raised r)) =
      attempt (enclosed (c.receive r binder >>= fun _ => evalBlock n c handler)) >>= conclude r := if_pos h

theorem handle_uncaught (n : Nat) (c : Context) (binder : Option (String × Place)) (handler : List Stmt) {r : Raised}
    (h : ¬ r.isCatchable = true) : handle n c binder handler (.error (.raised r)) = raise r := if_neg h

theorem evalStmt_attempt (body : List Stmt) (q : Place) (binder : Option (String × Place)) (handler : List Stmt) :
    evalStmt (n + 1) c (.attempt body q binder handler p) = (do
      tick c.limits p
      attempt (evalBlock n c body) >>= handle n c binder handler) := by
  rw [evalStmt]
  refine congrArg (tick c.limits p >>= ·) (funext fun _ => ?_)
  refine congrArg (attempt _ >>= ·) (funext fun e => ?_)
  rcases e with (r | _ | _ | _) | _
  case error.raised =>
    cases hr : r.isCatchable
    · simp [handle, hr]
    · rcases binder with _ | ⟨s, q⟩ <;> simp only [handle, hr, Context.receive, pure_bind, bind_assoc] <;> rfl
  all_goals rfl

/-- What comes after one round of a loop; `next` are the rounds after it. -/
def goOn (next : Run Value) : Except Exit Value → Run Value
  | .ok _ | .error .skipped => next
  | .error (.left v) => pure v
  | .error e => throw e

end Run

/-- A function that is not run for one of three reasons. -/
theorem Run.Steady.runFunction {P : ∀ ⦃α : Type⦄, Run α → Prop} (h : Steady P) {n : Nat} {c : Context} {p : Place}
    (g : Function) (vs : List Value) (hn : ¬ (g.body ≠ [] ∧ c.level < c.limits.callLevels ∧
      g.params.length ≤ c.limits.variableCount)) : P (Script.runFunction (n + 1) c g vs p) := by
  rw [Script.runFunction]
  split
  case isTrue => exact h.pure _
  case isFalse nonempty =>
    refine h.bind (h.tick c.limits p) fun _ => ?_
    dsimp only
    split
    case isTrue => exact h.exceed _ _
    case isFalse level =>
      split
      case isTrue => exact h.exceed _ _
      case isFalse room =>
        exact absurd ⟨fun empty => nonempty (List.isEmpty_iff.2 empty), Nat.not_le.1 level, Nat.not_lt.1 room⟩ hn

theorem Run.Steady.receive {P : ∀ ⦃α : Type⦄, Run α → Prop} (h : Steady P) (c : Context) (r : Raised)
    (binder : Option (String × Place)) : P (c.receive r binder) := by
  rcases binder with _ | ⟨s, q⟩
  · exact h.pure ()
  · exact h.bind (h.checkRoom c.limits 1 q) fun _ => h.bring s _ none

theorem Run.Steady.run_zero {P : ∀ ⦃α : Type⦄, Run α → Prop} (h : Steady P) (c : Context) (t : Part) :
    P (t.run 0 c) := by
  cases t <;> exact h.timeOut

/-! ## What a part inherits -/

namespace Part

/-- Whether the changes that a part may make have a property. -/
def Calm (P : ∀ ⦃α : Type⦄, Run α → Prop) : Part → Prop
  | .walk _ k _ | .method _ _ _ k _ | .store _ _ _ _ k _ _ | .applied _ _ k _ => k.Calm P
  | _ => True

/-- Whether a part calls no function, and neither throws nor catches. -/
def IsPlain : Part → Prop
  | .method .. | .applied .. | .function .. | .stmt (.throw ..) | .stmt (.attempt ..) => False
  | _ => True

/-- A property that a part takes over from what it comes to, which has it where its changes have another. -/
structure Inherits (P Q : ∀ ⦃α : Type⦄, Run α → Prop) (n : Nat) (c : Context) (t : Part) : Prop extends Steady Q where
  small : Steady P
  simple {α : Type} {x : Run α} (hx : P x) : Q x
  has {t' : Part} (h : t.Has t') (calm : t'.Calm P) : Q (t'.run n c)
  enclosed {α : Type} {x : Run α} (hx : Q x) : Q (Run.enclosed x)
  /-- an attempt of which what is raised is raised again -/
  attempted {α β : Type} {x : Run α} {f : Except Exit α → Run β} (hf : ∀ r, f (.error (.raised r)) = Run.raise r)
    (hx : Q x) (ho : ∀ e, (∀ r, e ≠ .error (.raised r)) → Q (f e)) : Q (Run.attempt x >>= f)

namespace Inherits

variable {P Q : ∀ ⦃α : Type⦄, Run α → Prop} {n : Nat} {c : Context}

/-! ### Expressions -/

theorem expr {e : Expr} (h : Inherits P Q n c (.expr e)) : Q (evalExpr (n + 1) c e) := by
  have operation : Q (do Run.tick c.limits e.place; perform n c e : Run Value) :=
    h.bind (h.tick _ _) fun _ => h.has .operation trivial
  cases e with
  | literal =>
    rw [evalExpr]
    exact h.bind (h.tick _ _) fun _ => h.pure _
  | interpolated =>
    rw [evalExpr]
    exact h.bind (h.tick _ _) fun _ => h.bind (h.has .texts trivial) fun _ => h.pure _
  | array =>
    rw [evalExpr]
    exact h.bind (h.tick _ _) fun _ => h.bind (h.has .items trivial) fun _ => h.pure _
  | map =>
    rw [evalExpr]
    exact h.bind (h.tick _ _) fun _ => h.bind (h.has .members trivial) fun _ => h.pure _
  | name s p =>
    rw [evalExpr]
    exact h.bind (h.tick _ _) fun _ => h.bind (h.read c s p) fun _ => h.pure _
  | both =>
    rw [evalExpr]
    exact h.bind (h.tick _ _) fun _ => h.bind (h.has .both trivial) fun _ => h.pure _
  | either =>
    rw [evalExpr]
    exact h.bind (h.tick _ _) fun _ => h.bind (h.has .either trivial) fun _ => h.pure _
  | chain root links =>
    rw [evalExpr]
    refine h.bind (h.tick _ _) fun _ => h.bind (h.has .steps trivial) fun strides => ?_
    split
    · refine h.bind (h.tick _ _) fun _ => h.bind (h.read c _ _) fun x => ?_
      exact h.has (.walk _ _ _) (h.small.calm_ofVariable x)
    · exact h.bind (h.has .root trivial) fun _ => h.has (.walk _ _ _) h.small.calm_loose
  | block =>
    rw [evalExpr]
    exact h.bind (h.tick _ _) fun _ => h.has .blockExpr trivial
  | call | unary | binary => exact operation

theorem texts {es : List Expr} {taken : String} (h : Inherits P Q n c (.texts es taken)) :
    Q (evalParts (n + 1) c es taken) := by
  cases es with
  | nil => exact h.pure _
  | cons e es =>
    rw [evalParts]
    refine h.bind (h.has .text trivial) fun v => h.bind (h.spell c v) fun s => ?_
    exact h.bind (h.checkExtent _ _ _) fun _ => h.has (.laterTexts _) trivial

theorem conditions {sought : Bool} {es : List Expr} (h : Inherits P Q n c (.conditions sought es)) :
    Q (evalUntil (n + 1) c sought es) := by
  cases es with
  | nil => exact h.pure _
  | cons e es =>
    rw [evalUntil]
    refine h.bind (h.has .condition trivial) fun v => h.bind (h.truth c v _) fun b => ?_
    split
    · exact h.pure _
    · exact h.has .conditions trivial

theorem operation {e : Expr} (h : Inherits P Q n c (.operation e)) : Q (perform (n + 1) c e) := by
  cases e with
  | call => exact h.has .call trivial
  | unary op a p =>
    rw [perform]
    exact h.bind (h.has .operand trivial) fun v => h.operateOne c op v p
  | binary op l r p =>
    rw [perform]
    exact h.bind (h.has .left trivial) fun a => h.bind (h.has .right trivial) fun b => h.operate c op a b p
  | _ => exact h.has .otherwise trivial

theorem items {es : List Expr} {total : Value.Extent} (h : Inherits P Q n c (.items es total)) :
    Q (evalItems (n + 1) c es total) := by
  cases es with
  | nil => exact h.pure _
  | cons e es =>
    rw [evalItems]
    refine h.bind (h.has .item trivial) fun v => h.bind (h.checkExtent _ _ _) fun _ => ?_
    exact h.bind (h.has (.laterItems _) trivial) fun _ => h.pure _

theorem members {ms : List (String × Expr)} {total : Value.Extent} (h : Inherits P Q n c (.members ms total)) :
    Q (evalMembers (n + 1) c ms total) := by
  cases ms with
  | nil => exact h.pure _
  | cons m ms =>
    rw [evalMembers]
    refine h.bind (h.has .member trivial) fun v => h.bind (h.checkExtent _ _ _) fun _ => ?_
    exact h.bind (h.has (.laterMembers _) trivial) fun _ => h.pure _

theorem arg {e : Expr} (h : Inherits P Q n c (.arg e)) : Q (evalArg (n + 1) c e) := by
  rw [evalArg]
  split
  · exact h.bind (h.tick _ _) fun _ => h.pure _
  · exact h.has .argument trivial

theorem args {es : List Expr} (h : Inherits P Q n c (.args es)) : Q (evalArgs (n + 1) c es) := by
  cases es with
  | nil => exact h.pure _
  | cons e es =>
    rw [evalArgs]
    exact h.bind (h.has .arg trivial) fun _ => h.bind (h.has .laterArgs trivial) fun _ => h.pure _

/-! ### Steps into values -/

theorem link {l : Link} (h : Inherits P Q n c (.link l)) : Q (evalLink (n + 1) c l) := by
  cases l with
  | index e sign =>
    rw [evalLink]
    exact h.bind (h.has .index trivial) fun _ => h.pure _
  | property => exact h.pure _
  | method f es p sign =>
    rw [evalLink]
    exact h.bind (h.has .methodArgs trivial) fun _ => h.pure _

theorem links {ls : List Link} (h : Inherits P Q n c (.links ls)) : Q (evalLinks (n + 1) c ls) := by
  cases ls with
  | nil => exact h.pure _
  | cons l ls =>
    exact h.bind (h.tick _ _) fun _ => h.bind (h.has .link trivial) fun _ =>
      h.bind (h.has .laterLinks trivial) fun _ => h.pure _

theorem steps {ls : List Link} (h : Inherits P Q n c (.steps ls)) : Q (evalSteps (n + 1) c ls) := by
  unfold evalSteps
  split
  · exact h.pure _
  · exact h.pure _
  · split
    · exact h.pure _
    · exact h.has .links trivial
  · exact h.has .links trivial

theorem walk {v : Value} {k : Hold} {ss : List Stride} (h : Inherits P Q n c (.walk v k ss)) (calm : k.Calm P) :
    Q (Script.walk (n + 1) c v k ss) := by
  cases ss with
  | nil => exact h.pure _
  | cons s ss =>
    cases s with
    | index i p sign =>
      rw [Script.walk]
      exact h.bind (h.itemAt c v i p sign) fun _ => h.has (.onward _ _) (h.small.calm_part calm _ v i p)
    | property s p sign =>
      cases v with
      | map ms =>
        exact h.bind (h.itemAt c _ _ _ _) fun _ => h.has (.onward _ _) (h.small.calm_part calm _ _ _ p)
      | _ => exact h.bind (h.propertyOf c _ s p sign) fun _ => h.has (.onward _ _) h.small.calm_loose
    | method f vs p =>
      rw [Script.walk]
      exact h.bind (h.has .method calm) fun _ => h.has (.onward _ _) h.small.calm_loose

theorem store {o : Origin} {op : Option Operator} {v new : Value} {k : Hold} {p : Place} {ss : List Stride}
    (h : Inherits P Q n c (.store o op v new k p ss)) (calm : k.Calm P) :
    Q (Script.store (n + 1) c o op v new k p ss) := by
  cases ss with
  | nil => exact h.pure _
  | cons s ss =>
    cases s with
    | index i q sign =>
      cases ss with
      | nil => exact h.simple (h.small.assignItem c o op v i new calm p q sign)
      | cons s ss =>
        exact h.bind (h.itemAt c v i q sign) fun _ => h.has (.storeOnward _ _) (h.small.calm_part calm _ v i p)
    | property s q sign =>
      cases ss with
      | nil => exact h.simple (h.small.assignProperty c o op v s new calm p q sign)
      | cons s' ss =>
        cases v with
        | map ms =>
          exact h.bind (h.itemAt c _ _ q sign) fun _ => h.has (.storeOnward _ _) (h.small.calm_part calm _ _ _ p)
        | _ =>
          exact h.bind (h.propertyOf c _ s q sign) fun _ =>
            h.bind (h.has (.storeOnward _ _) h.small.calm_loose) fun _ => h.bind (h.tick _ _) fun _ => h.tick _ _
    | method f vs q =>
      exact h.bind (h.has .storeMethod calm) fun _ => h.has (.storeOnward _ _) h.small.calm_loose

/-! ### Calls -/

theorem call {f : String} {es : List Expr} {p : Place} (h : Inherits P Q n c (.call f es p)) :
    Q (evalCall (n + 1) c f es p) := by
  unfold evalCall
  split
  · exact h.bind (h.has .pointed trivial) fun v => h.pointer c v _
  · refine h.bind (h.tick _ _) fun _ => h.bind (h.has .laterCallArgs trivial) fun _ => ?_
    refine h.bind (h.read c _ _) fun x => h.has (.applied _ _) ?_
    change Hold.Calm P _
    split
    · exact h.small.calm_loose
    · exact h.small.calm_ofVariable x
  · exact h.bind (h.has .callArgs trivial) fun _ => h.has (.applied _ _) h.small.calm_loose

theorem optional {e : Option Expr} (h : Inherits P Q n c (.optional e)) : Q (evalOptional (n + 1) c e) := by
  cases e with
  | none => exact h.pure _
  | some e => exact h.has .optional trivial

theorem assigned {target : Expr} {op : Option Operator} {new : Value} {p : Place}
    (h : Inherits P Q n c (.assign target op new p)) : Q (evalAssign (n + 1) c target op new p) := by
  unfold evalAssign
  split
  · rename_i s q
    refine h.bind (h.lookup? s) fun x => ?_
    cases x with
    | none => exact h.fail _ q
    | some x =>
      refine h.bind (h.tick _ _) fun _ => ?_
      split
      · exact h.fail _ q
      · exact h.bind (h.combine c op _ new p) fun v => h.assign s v none
  · refine h.bind (h.has .assignSteps trivial) fun _ => h.bind (h.tick _ _) fun _ => ?_
    exact h.bind (h.read c _ _) fun x => h.has (.assignStore _ _ _) (h.small.calm_ofVariable x)
  · exact h.panic _

/-! ### Statements -/

theorem block {body : List Stmt} (h : Inherits P Q n c (.block body)) : Q (evalBlock (n + 1) c body) :=
  h.enclosed (h.has .body trivial)

theorem body {ss : List Stmt} {last : Value} (h : Inherits P Q n c (.body ss last)) :
    Q (evalBody (n + 1) c ss last) := by
  cases ss with
  | nil => exact h.pure _
  | cons s ss => exact h.bind (h.has .stmt trivial) fun v => h.has (.laterStmts v) trivial

theorem round {t : Part} (h : Inherits P Q n c t) {round next : Run Value} (hr : Q round) (hn : Q next) :
    Q (Run.attempt round >>= goOn next) := by
  refine h.attempted (fun _ => rfl) hr fun e other => ?_
  rcases e with (r | v | _ | v) | v
  case error.raised => exact absurd rfl (other r)
  case error.left => exact h.pure v
  case error.returned => exact h.exit fun _ e => by cases e
  case error.skipped | ok => exact hn

theorem loop {guard : Option Expr} {body : List Stmt} {q : Place} (h : Inherits P Q n c (.loop guard body q)) :
    Q (evalLoop (n + 1) c guard body q) := by
  have round : Q (Run.attempt (evalBlock n c body) >>= goOn (evalLoop n c guard body q)) :=
    h.round (h.has .loopBody trivial) (h.has .loopAgain trivial)
  have rounds (goesOn : Bool) : Q (if !goesOn then pure .unit else do
      if body.isEmpty then Run.tick c.limits q
      Run.attempt (evalBlock n c body) >>= goOn (evalLoop n c guard body q) : Run Value) := by
    split
    · exact h.pure _
    · exact h.bindIf (h.tick _ _) round
  unfold evalLoop
  cases guard with
  | some e => exact h.bind (h.has .loopGuard trivial) fun v => h.bind (h.truth c v _) fun b => rounds b
  | none => exact h.bind (h.pure true) fun b => rounds b

theorem each {s : String} {counter : Option String} {supply : Supply} {count : Nat} {body : List Stmt} {q : Place}
    (h : Inherits P Q n c (.each s counter supply count body q)) :
    Q (evalEach (n + 1) c s counter supply count body q) := by
  unfold evalEach
  split
  · exact h.pure _
  · rename_i v rest _
    let next := evalEach n c s counter rest (count + 1) body q
    have round : Q (Run.attempt (evalBlock n c body) >>= goOn next) :=
      h.round (h.has .eachBody trivial) (h.has (.eachAgain rest) trivial)
    have rounds : Q (do
        Run.assign s v none
        if body.isEmpty then Run.tick c.limits q
        Run.attempt (evalBlock n c body) >>= goOn next : Run Value) :=
      h.bind (h.assign s v none) fun _ => h.bindIf (h.tick _ _) round
    cases counter with
    | some k => exact h.bind (h.assign k _ none) fun _ => rounds
    | none => exact rounds

theorem stmt {s : Stmt} (h : Inherits P Q n c (.stmt s)) (plain : (Part.stmt s).IsPlain) :
    Q (evalStmt (n + 1) c s) := by
  cases s with
  | nothing => exact h.bind (h.tick _ _) fun _ => h.pure _
  | expr e => exact h.bind (h.tick _ _) fun _ => h.has .exprStmt trivial
  | perform e => exact h.bind (h.tick _ _) fun _ => h.has .performStmt trivial
  | define constant reuse s value p =>
    have keeps (v : Value) (fixed : Option Value) : Q (do
        if reuse then Run.assign s v fixed else Run.bring s v fixed
        pure .unit : Run Value) := by
      split
      · exact h.bind (h.assign s v fixed) fun _ => h.pure _
      · exact h.bind (h.bring s v fixed) fun _ => h.pure _
    rw [evalStmt]
    exact h.bind (h.tick _ _) fun _ => h.bindIf (h.checkRoom _ _ _) <| h.bindIf (h.tick _ _) <|
      h.bind (h.has .defined trivial) fun v => keeps v _
  | assign target op value p =>
    exact h.bind (h.tick _ _) fun _ => h.bind (h.has .assigned trivial) fun v =>
      h.bind (h.has (.assign v) trivial) fun _ => h.pure _
  | block => exact h.bind (h.tick _ _) fun _ => h.has .blockStmt trivial
  | branch guard body q orElse r p =>
    refine h.bind (h.tick _ _) fun _ => h.bind (h.has .guard trivial) fun v => ?_
    refine h.bind (h.truth c v _) fun b => ?_
    cases b
    · exact h.has .orElse trivial
    · exact h.has .branch trivial
  | loop guard body q p =>
    refine h.bind (h.tick _ _) fun _ => ?_
    dsimp only
    split
    · exact h.spin _ _
    · exact h.has .loop trivial
  | each s sp counter items body q p =>
    rw [evalStmt]
    refine h.bind (h.tick _ _) fun _ => h.bind (h.checkRoom _ _ _) fun _ => ?_
    refine h.bind (h.has .supply trivial) fun v => ?_
    split
    · exact h.fail _ _
    · rename_i supply _
      have begins : Q (do Run.bring s .unit none; evalEach n c s counter supply 0 body q : Run Value) :=
        h.bind (h.bring s _ none) fun _ => h.has (.each supply) trivial
      refine h.enclosed ?_
      cases counter with
      | some k => exact h.bind (h.bring k _ none) fun _ => begins
      | none => exact begins
  | leave => exact h.bind (h.tick _ _) fun _ => h.bind (h.has .leave trivial) fun _ => h.exit fun _ e => by cases e
  | skip => exact h.bind (h.tick _ _) fun _ => h.exit fun _ e => by cases e
  | yield => exact h.bind (h.tick _ _) fun _ => h.bind (h.has .yield trivial) fun _ => h.exit fun _ e => by cases e
  | throw | attempt => exact plain.elim
  | load path p =>
    rw [evalStmt]
    refine h.bind (h.tick _ _) fun _ => h.bindIf (h.exceed _ _) <| h.bind (h.has .path trivial) fun v => ?_
    cases v <;> exact h.fail _ _

/-- What a plain part comes to decides about the part. -/
theorem run {t : Part} (h : Inherits P Q n c t) (plain : t.IsPlain) (calm : t.Calm P) : Q (t.run (n + 1) c) := by
  cases t with
  | expr => exact h.expr
  | texts => exact h.texts
  | conditions => exact h.conditions
  | operation => exact h.operation
  | items => exact h.items
  | members => exact h.members
  | arg => exact h.arg
  | args => exact h.args
  | link => exact h.link
  | links => exact h.links
  | steps => exact h.steps
  | walk => exact h.walk calm
  | store => exact h.store calm
  | method | applied | function => exact plain.elim
  | call => exact h.call
  | optional => exact h.optional
  | assign => exact h.assigned
  | stmt => exact h.stmt plain
  | block => exact h.block
  | body => exact h.body
  | loop => exact h.loop
  | each => exact h.each

end Inherits

end Part

end ScriptHost.Script
