import ScriptHost.Script.Place
import ScriptHost.Script.Value
/-!
Scripts as trees.

A value that needs no evaluation stands in the tree as a literal. Operators and calls are operations:
as statements they can be performed without being evaluated as expressions first.
-/

namespace ScriptHost.Script

/-- Operators that work on values. -/
inductive Operator where
  | plus | minus | times | divide | modulo
  | equal | notEqual | less | lessEqual | greater | greaterEqual
  | range | rangeInclusive | negate | affirm | not
deriving DecidableEq, Repr

/-- The name under which an operator is looked up. -/
def Operator.text : Operator → String
  | plus | affirm => "+" | minus | negate => "-" | times => "*" | divide => "/" | modulo => "%"
  | equal => "==" | notEqual => "!=" | less => "<" | lessEqual => "<=" | greater => ">"
  | greaterEqual => ">=" | range => ".." | rangeInclusive => "..=" | not => "!"

mutual

/-- An expression. The place of an operation is that of its sign, of a call that of the name. -/
inductive Expr where
  | literal (v : Value) (p : Place)
  /-- a text with expressions put in, from its parts -/
  | interpolated (parts : List Expr) (p : Place)
  | array (items : List Expr) (p : Place)
  | map (members : List (String × Expr)) (p : Place)
  | name (s : String) (p : Place)
  | call (f : String) (args : List Expr) (p : Place)
  | unary (op : Operator) (e : Expr) (p : Place)
  | binary (op : Operator) (l r : Expr) (p : Place)
  /-- conditions that must all hold -/
  | both (operands : List Expr) (p : Place)
  /-- conditions of which one must hold -/
  | either (operands : List Expr) (p : Place)
  /-- steps into a value, from left to right -/
  | chain (root : Expr) (links : List Link)
  /-- statements, of which the last gives the value -/
  | block (body : List Stmt) (p : Place)

/-- A step into a value; `sign` is the place of the sign that announces it. -/
inductive Link where
  | index (e : Expr) (sign : Place)
  | property (s : String) (p sign : Place)
  | method (f : String) (args : List Expr) (p sign : Place)

/-- A statement. -/
inductive Stmt where
  | nothing (p : Place)
  | expr (e : Expr)
  /-- an operation whose value is that of the statement -/
  | perform (e : Expr)
  /-- a variable; `constant` if it may not be changed, `reuse` if it takes the place of the variable of
  that name in the same block -/
  | define (constant reuse : Bool) (s : String) (value : Option Expr) (p : Place)
  /-- an assignment, with an operator if it is a compound one -/
  | assign (target : Expr) (op : Option Operator) (value : Expr) (p : Place)
  | block (body : List Stmt) (p : Place)
  | branch (guard : Expr) (body : List Stmt) (bodyPlace : Place) (orElse : List Stmt) (elsePlace p : Place)
  /-- a loop without a guard, or with one -/
  | loop (guard : Option Expr) (body : List Stmt) (bodyPlace p : Place)
  | each (s : String) (sPlace : Place) (counter : Option String) (items : Expr) (body : List Stmt)
      (bodyPlace p : Place)
  | leave (value : Option Expr) (p : Place)
  | skip (p : Place)
  | yield (value : Option Expr) (p : Place)
  | throw (value : Option Expr) (p : Place)
  | attempt (body : List Stmt) (bodyPlace : Place) (binder : Option (String × Place)) (handler : List Stmt)
      (p : Place)
  | load (path : Expr) (p : Place)

end

/-- A function of a script. -/
structure Function where
  name : String
  params : List String
  body : List Stmt

/-- A script: its functions, and the statements outside them. -/
structure Program where
  functions : List Function
  body : List Stmt

/-! ## Places -/

/-- The place of the sign that announces a step. -/
def Link.sign : Link → Place
  | .index _ p | .property _ _ p | .method _ _ _ p => p

/-- The place of a step itself, given where an index is. -/
def Link.place (index : Expr → Place) : Link → Place
  | .index e _ => index e
  | .property _ p _ | .method _ _ p _ => p

/-- The place of an expression. -/
def Expr.place : Expr → Place
  | .literal _ p | .interpolated _ p | .array _ p | .map _ p | .name _ p | .call _ _ p | .unary _ _ p | .binary _ _ _ p
  | .both _ p | .either _ p | .block _ p => p
  | .chain root links =>
    match links with
    | l :: _ => l.sign
    | [] => root.place

/-- The place at which an expression starts; an operator counts as the start of its operation, unless it
joins two conditions. -/
def Expr.start : Expr → Place
  | .both (e :: _) _ | .either (e :: _) _ => e.start
  | .chain root _ => root.start
  | e => e.place

/-- The place of a statement. -/
def Stmt.place : Stmt → Place
  | .expr e => e.start
  | .perform e => e.place
  | .nothing p | .define _ _ _ _ p | .assign _ _ _ p | .block _ p | .branch _ _ _ _ _ p | .loop _ _ _ p
  | .each _ _ _ _ _ _ p | .leave _ p | .skip p | .yield _ p | .throw _ p | .attempt _ _ _ _ p
  | .load _ p => p

/-! ## Literals -/

mutual

/-- The value of a literal or a collection of literals: of an expression that needs no evaluation. -/
def Expr.literal? : Expr → Option Value
  | .literal v _ => some v
  | .interpolated parts _ => (literals? parts).map fun vs => .str (String.join (vs.map (·.text (.reported {}))))
  | .array items _ => (literals? items).map .array
  | .map members _ => (literalMembers? members).map fun ms => .map (Members.sort ms)
  | _ => none

/-- The values of literals. -/
def literals? : List Expr → Option (List Value)
  | [] => some []
  | e :: es =>
    match e.literal?, literals? es with
    | some v, some vs => some (v :: vs)
    | _, _ => none

/-- The values of members that are literals. -/
def literalMembers? : List (String × Expr) → Option (List (String × Value))
  | [] => some []
  | (k, e) :: es =>
    match e.literal?, literalMembers? es with
    | some v, some vs => some ((k, v) :: vs)
    | _, _ => none

end

/-- Whether an expression needs no evaluation. -/
def Expr.isLiteral (e : Expr) : Bool := e.literal?.isSome

/-- The conditions of which an expression is the conjunction. -/
def Expr.conjuncts : Expr → List Expr
  | .both operands _ => operands
  | e => [e]

/-- The conditions of which an expression is the disjunction. -/
def Expr.disjuncts : Expr → List Expr
  | .either operands _ => operands
  | e => [e]

/-- Conditions that must both hold. One that is a conjunction already takes the other ones in, at its place if
it comes first and otherwise at the given one. -/
def Expr.conjunction (l r : Expr) (p : Place) : Expr :=
  .both (l.conjuncts ++ r.conjuncts) (match l with | .both _ q => q | _ => p)

/-- Conditions of which one must hold, taken in as by `conjunction`. -/
def Expr.disjunction (l r : Expr) (p : Place) : Expr :=
  .either (l.disjuncts ++ r.disjuncts) (match l with | .either _ q => q | _ => p)

/-- Whether an expression is a certain truth value. -/
def Expr.isTruth (b : Bool) : Expr → Bool
  | .literal (.bool c) _ => b == c
  | _ => false

/-- Whether an expression is an operation. -/
def Expr.isOperation : Expr → Bool
  | .call .. | .unary .. | .binary .. => true
  | _ => false

/-- An expression at another place. -/
def Expr.at (p : Place) : Expr → Expr
  | .literal v _ => .literal v p
  | .interpolated parts _ => .interpolated parts p
  | .array items _ => .array items p
  | .map members _ => .map members p
  | .name s _ => .name s p
  | .call f args _ => .call f args p
  | .unary op e _ => .unary op e p
  | .binary op l r _ => .binary op l r p
  | .both es _ => .both es p
  | .either es _ => .either es p
  | .block body _ => .block body p
  | .chain root links => .chain root links

end ScriptHost.Script
