import ScriptHost.Script.Access
import ScriptHost.Script.Builtin
import ScriptHost.Script.Limits
import ScriptHost.Script.Purity
/-!
What of a script is worked out before it runs.

Constants whose values are literals are put where they are used, operations on literals are carried out,
and statements that come to nothing are left out. Statements are gone over until nothing changes any more.
A script that is reduced takes fewer steps; it may also avoid a fault, or run into a panic where it
assigns to a part of a constant.
-/

namespace ScriptHost.Script

/-- What is known while a script is reduced. -/
structure Knowledge where
  /-- the variables in scope, innermost first, with their values as far as they are known -/
  known : List (String × Option Value)
  /-- whether anything was reduced -/
  changed : Bool

/-- A step of reducing. -/
abbrev Reduce (α : Type) := StateM Knowledge α

namespace Reduce

/-- Takes down that something was reduced. -/
def mark : Reduce Unit := modify fun k => { k with changed := true }

/-- What something is reduced to. -/
def become {α : Type} (a : α) : Reduce α := do
  mark
  pure a

/-- Takes down that something was reduced if a part of the statements is gone. -/
def markFewer (before after : List Stmt) : Reduce Unit := do
  if after.length < before.length then mark

/-- The value of a variable, if it is known. -/
def value? (s : String) : Reduce (Option Value) := do pure ((← get).known.lookup s).join

/-- Brings a variable into scope. -/
def learn (s : String) (v : Option Value) : Reduce Unit :=
  modify fun k => { k with known := (s, v) :: k.known }

end Reduce

open Reduce

/-! ## Expressions -/

/-- The member that the only step leads to, if its name is known. -/
def memberName? : List Link → Option String
  | [.property s _ _] | [.index (.literal (.str s) _) _] => some s
  | _ => none

/-- The part of an expression that the only step leads to, if all other parts can be left out. -/
def Expr.part? (root : Expr) (links : List Link) : Option Expr :=
  match root, links with
  | .map members q, links =>
    if pureMembers members then
      (memberName? links).map fun s => ((members.lookup s).getD (.literal .unit q)).at q
    else none
  | .array items q, [.index (.literal (.int i) _) _] =>
    if pureExprs items then ((position? items.length i).bind (items[·]?)).map (·.at q) else none
  | .literal (.int n) q, [.index (.literal (.int i) _) _] =>
    ((Value.int n).item {} (.int i)).toOption.map (.literal · q)
  | .literal (.str s) q, [.index (.literal (.int i) _) _] =>
    ((Value.str s).item {} (.int i)).toOption.map (.literal · q)
  | _, _ => none

/-- What an operator makes of two literals, if that is worked out at once and within the limits. -/
def foldedPair? (limits : Limits) (op : Operator) (l r : Expr) : Option Value :=
  match l.literal?, r.literal? with
  | some a, some b =>
    match atOnce op a b with
    | some (.ok v) => if exceeds limits.stringSize v.extent.bytes then none else some v
    | _ => none
  | _, _ => none

/-- Conditions without those that are the literal `neutral`, which stands for them where none is left. -/
def Expr.joined (join : List Expr → Place → Expr) (neutral : Bool) (operands : List Expr) (p : Place) : Expr :=
  match operands.filter fun e => !e.isTruth neutral with
  | [] => .literal (.bool neutral) p
  | [e] => e
  | es => join es p

/-- The parts of a text from one of them on, with neighbouring strings joined and without those that say
nothing. -/
def mergedParts : Expr → List Expr → List Expr
  | e, [] => [e]
  | .literal (.str s) p, .literal (.str t) _ :: es => mergedParts (.literal (.str (s ++ t)) p) es
  | e, .literal .unit _ :: es => mergedParts e es
  | .literal .unit _, e :: es => mergedParts e es
  | e, .literal (.str "") _ :: es => mergedParts e es
  | .literal (.str "") _, e :: es => mergedParts e es
  | e, f :: es => e :: mergedParts f es

/-- The compound assignment that an assignment of an operation on the variable itself amounts to. -/
def compound? (target : Expr) (op : Option Operator) (value : Expr) : Option Stmt :=
  match target, op, value with
  | .name s _, none, .binary op (.name t _) r p =>
    if s = t ∧ [Operator.plus, .minus, .times, .divide, .modulo].contains op then
      some (.assign target (some op) r p)
    else none
  | _, _, _ => none

/-! ## Statements -/

/-- What statements are for: they make up a script or a function, or a block whose value counts, or one
whose value does not. -/
inductive Role where
  | whole
  | valued
  | discarded
deriving DecidableEq, Repr

namespace Role

/-- Whether the value of the last statement counts. -/
def keeps (r : Role) : Bool := r ≠ .discarded

/-- The role of a block inside statements. -/
def inner (keeps : Bool) : Role := if keeps then .valued else .discarded

/-- Whether a statement can be left out as far as it changes nothing. -/
def isPure (r : Role) (s : Stmt) : Bool := if r = .whole then s.isPure else s.isPureInside

/-- Whether statements before this one may serve it. -/
def isServed (r : Role) (s : Stmt) : Bool :=
  !r.isPure s || match s with
    | .define _ _ _ value _ => value.all Expr.isLiteral
    | .expr e => !e.isLiteral
    | .load path _ => !path.isLiteral
    | _ => false

end Role

/-- The statements up to the first one behind which nothing is run. -/
def upToExit : List Stmt → List Stmt
  | [] => []
  | s :: ss => if s.isExit then [s] else s :: upToExit ss

/-- How many statements come before the last one that others may serve. -/
def servedFrom (r : Role) (body : List Stmt) : Nat :=
  match body.reverse.findIdx? r.isServed with
  | some n => body.length - n - 1
  | none => 0

/-- Statements without the pure ones; `served` counts those ahead that may serve others, of which only
what is pure by itself is left out. The last one stays if its value counts. -/
def sweep (r : Role) : (served : Nat) → List Stmt → List Stmt
  | _, [] => []
  | served, s :: ss =>
    if r.keeps && ss.isEmpty then [s]
    else if (r.isPure s && served == 0) || s.isPure then sweep r (served - 1) ss
    else s :: sweep r (served - 1) ss

/-- Statements, last first, whose value counts, without those at the end that give none, and whether
anything was left out. At the end of a script or a function to return a value is to have it. -/
def trimValued (r : Role) : List Stmt → List Stmt × Bool
  | [] => ([], false)
  | s :: ss =>
    let shortened : List Stmt × Bool :=
      match ss with
      | [] => ([], true)
      | t :: _ => if t.givesValue then (.nothing s.place :: ss, true) else ((trimValued r ss).1, true)
    match s, ss with
    | .nothing _, t :: _ => if t.givesValue then (s :: ss, false) else shortened
    | .yield none _, _ => if r = .whole then shortened else (s :: ss, false)
    | .yield (some e) _, _ => if r = .whole then (.expr e :: ss, true) else (s :: ss, false)
    | s, ss => if !s.givesValue && r.isPure s then shortened else (s :: ss, false)

/-- Statements without those at the end that come to nothing. -/
def trim (r : Role) (body : List Stmt) : List Stmt × Bool :=
  if r.keeps then
    let (rest, changed) := trimValued r body.reverse
    (rest.reverse, changed)
  else
    let rest := (body.reverse.dropWhile r.isPure).reverse
    (rest, rest.length < body.length)

/-! ## Going over a script -/

mutual

/-- Reduces an expression; `chained` if steps of another one lead from or to it. The number bounds the calls. -/
def reduceExpr (limits : Limits) : Nat → (chained : Bool) → Expr → Reduce Expr
  | 0, _, e => pure e
  | n + 1, chained, e => do
    match e with
    | .literal .. => pure e
    | .name s p =>
      match ← value? s with
      | some v => become (.literal v p)
      | none => pure e
    | .block [] p => become (.literal .unit p)
    | .block [.expr e] _ => do
      mark
      reduceExpr limits n false e
    | .block body p =>
      match ← reduceBlock limits n .valued body with
      | [.expr e] => become e
      | body => pure (.block body p)
    | .interpolated parts p =>
      match e.literal? with
      | some v => become (.literal v p)
      | none =>
        match ← parts.mapM (reduceExpr limits n false) with
        | [] => pure e
        | first :: others => do
          let merged := mergedParts first others
          if merged.length ≤ others.length then mark
          pure (.interpolated merged p)
    | .array items p =>
      match e.literal? with
      | some v => become (.literal v p)
      | none => pure (.array (← items.mapM (reduceExpr limits n false)) p)
    | .map members p =>
      match e.literal? with
      | some v => become (.literal v p)
      | none => pure (.map (← members.mapM fun m => do pure (m.1, ← reduceExpr limits n false m.2)) p)
    | .both (.literal (.bool false) q :: _) _ => become (.literal (.bool false) q)
    | .either (.literal (.bool true) q :: _) _ => become (.literal (.bool true) q)
    | .both operands p =>
      if operands.any (·.isTruth true) then do
        mark
        reduceExpr limits n false (.joined .both true operands p)
      else pure (.both (← operands.mapM (reduceExpr limits n false)) p)
    | .either operands p =>
      if operands.any (·.isTruth false) then do
        mark
        reduceExpr limits n false (.joined .either false operands p)
      else pure (.either (← operands.mapM (reduceExpr limits n false)) p)
    | .unary .not (.literal (.bool b) q) _ => become (.literal (.bool !b) q)
    | .unary op a p => pure (.unary op (← reduceExpr limits n false a) p)
    | .binary op l r p =>
      match foldedPair? limits op l r with
      | some v => become (.literal v p)
      | none => pure (.binary op (← reduceExpr limits n false l) (← reduceExpr limits n false r) p)
    | .call "Fn" [.literal (.str s) _] p =>
      if isFunctionName s then become (.literal (.function s) p) else pure e
    | .call f args p => pure (.call f (← args.mapM (reduceExpr limits n false)) p)
    | .chain root links =>
      if chained then pure (.chain (← reduceExpr limits n true root) (← reduceLinks limits n links))
      else
        match root.part? links, root with
        | some e, _ => become e
        | none, .name s q =>
          match ← value? s, memberName? links with
          | some (.map ms), some k => become (.literal ((ms.lookup k).getD .unit) q)
          | _, _ => pure (.chain root (← reduceLinks limits n links))
        | none, root => pure (.chain (← reduceExpr limits n true root) (← reduceLinks limits n links))

/-- Reduces what steps into a value need. -/
def reduceLinks (limits : Limits) : Nat → List Link → Reduce (List Link)
  | 0, links => pure links
  | _ + 1, [] => pure []
  | n + 1, l :: ls => do
    let l ← match l with
      | .index e sign => do pure (Link.index (← reduceExpr limits n ls.isEmpty e) sign)
      | .method f args p sign => do pure (Link.method f (← args.mapM (reduceExpr limits n false)) p sign)
      | l => pure l
    pure (l :: (← reduceLinks limits n ls))

/-- Reduces an expression where there is one. -/
def reduceOptional (limits : Limits) : Nat → Option Expr → Reduce (Option Expr)
  | 0, e => pure e
  | _ + 1, none => pure none
  | n + 1, some e => some <$> reduceExpr limits n false e

/-- Reduces the statements that a branch is known to take; `q` is their place. -/
def reduceChosen (limits : Limits) : Nat → (keeps : Bool) → List Stmt → (q : Place) → Reduce Stmt
  | 0, _, body, q => pure (.block body q)
  | n + 1, keeps, body, q => do
    mark
    match ← reduceBlock limits n (.inner keeps) body with
    | [] => pure (.nothing q)
    | body => pure (.block body q)

/-- Reduces a statement, of which the value counts if `keeps` says so. -/
def reduceStmt (limits : Limits) : Nat → (keeps : Bool) → Stmt → Reduce Stmt
  | 0, _, s => pure s
  | n + 1, keeps, s => do
    match s with
    | .assign target op value p =>
      match compound? target op value with
      | some s => become s
      | none =>
        let target ← match target with
          | .name .. => pure target
          | target => reduceExpr limits n false target
        pure (.assign target op (← reduceExpr limits n false value) p)
    | .branch guard [] _ [] _ _ => do
      mark
      let e ← reduceExpr limits n false guard
      pure (if keeps then .block [.expr e, .nothing guard.start] guard.start else .expr e)
    | .branch (.literal (.bool false) q) _ _ [] _ _ => become (.nothing q)
    | .branch (.literal (.bool false) _) _ _ orElse r _ => reduceChosen limits n keeps orElse r
    | .branch (.literal (.bool true) _) body q _ _ _ => reduceChosen limits n keeps body q
    | .branch guard [.branch inner body q [] _ _] _ [] r p =>
      become (.branch (guard.conjunction inner p) body q [] r p)
    | .branch guard body q orElse r p => do
      let guard ← reduceExpr limits n false guard
      let body ← reduceBlock limits n (.inner keeps) body
      pure (.branch guard body q (← reduceBlock limits n (.inner keeps) orElse) r p)
    | .loop (some (.literal (.bool false) q)) _ _ _ => become (.nothing q)
    | .loop guard body q p => do
      let guard ← match ← reduceOptional limits n guard with
        | some (.literal (.bool true) _) => pure none
        | guard => pure guard
      pure (.loop guard (← reduceBlock limits n .discarded body) q p)
    | .each v vPlace counter items body q p => do
      let items ← reduceExpr limits n false items
      pure (.each v vPlace counter items (← reduceBlock limits n .discarded body) q p)
    | .block body p =>
      match ← reduceBlock limits n (.inner keeps) body with
      | [] => become (.nothing p)
      | [s] => if s.needsBlock then pure (.block [s] p) else become s
      | body => pure (.block body p)
    | .attempt body q binder handler p =>
      if pureStmts body then do
        mark
        pure (.block (← reduceBlock limits n .discarded body) q)
      else do
        let body ← reduceBlock limits n .discarded body
        pure (.attempt body q binder (← reduceBlock limits n .discarded handler) p)
    | .expr (.block [] p) => become (.nothing p)
    | .expr (.block body p) => do
      mark
      pure (.block (← reduceBlock limits n .valued body) p)
    | .expr e => if e.isOperation then become (.perform e) else pure (.expr (← reduceExpr limits n false e))
    | .perform e => do
      let e ← reduceExpr limits n false e
      pure (if e.isOperation then .perform e else .expr e)
    | .define constant reuse v value p => do
      let value ← reduceOptional limits n value
      let isKnown := constant && value.all Expr.isLiteral
      learn v (if isKnown then some ((value.bind Expr.literal?).getD .unit) else none)
      pure (.define constant reuse v value p)
    | .load path p => do pure (.load (← reduceExpr limits n false path) p)
    | .leave value p => do pure (.leave (← reduceOptional limits n value) p)
    | .yield value p => do pure (.yield (← reduceOptional limits n value) p)
    | .throw value p => do pure (.throw (← reduceOptional limits n value) p)
    | .nothing .. | .skip .. => pure s

/-- Reduces statements. -/
def reduceBlock (limits : Limits) : Nat → Role → List Stmt → Reduce (List Stmt)
  | 0, _, body => pure body
  | _ + 1, _, [] => pure []
  | n + 1, r, body => do
    if body.any Stmt.isSpread then mark
    let changed := (← get).changed
    let body ← reduceOver limits n r (Stmt.spreadAll body)
    if changed then mark
    pure body

/-- Goes over statements until nothing changes any more. -/
def reduceOver (limits : Limits) : Nat → Role → List Stmt → Reduce (List Stmt)
  | 0, _, body => pure body
  | n + 1, r, body => do
    let known := (← get).known
    set (⟨known, false⟩ : Knowledge)
    let live := upToExit body
    markFewer body live
    let reduced ← live.mapM (reduceStmt limits n r.keeps)
    let swept := sweep r (servedFrom r reduced) reduced
    markFewer reduced swept
    let (trimmed, isTrimmed) := trim r swept
    if isTrimmed then mark
    let changed := (← get).changed
    set (⟨known, changed⟩ : Knowledge)
    if changed then do
      let trimmed ← reduceOver limits n r trimmed
      mark
      pure trimmed
    else pure trimmed

end

/-- How deep the calls of a reduction may nest. -/
def reductionBound : Nat := 1000000000000

/-- Reduces the statements of a script or a function, where a constant is known. -/
def reduceWhole (limits : Limits) (constant : String) (v : Value) (body : List Stmt) : List Stmt :=
  ((reduceBlock limits reductionBound .whole body).run ⟨[(constant, some v)], false⟩).1

/-- Reduces a script and its functions; a constant is known to all of them. -/
def Program.reduced (limits : Limits) (constant : String) (v : Value) (program : Program) : Program where
  functions := program.functions.map fun f => { f with body := reduceWhole limits constant v f.body }
  body := reduceWhole limits constant v program.body

end ScriptHost.Script
