import ScriptHost.Script.Tree
/-!
What a statement can be left out for.

A pure expression or statement changes nothing and always ends, so that it matters only for its value.
Inside a block a definition with a literal value is pure: its variable ends with the block.
-/

namespace ScriptHost.Script

mutual

/-- Whether evaluating an expression changes nothing and comes to an end. -/
def Expr.isPure : Expr → Bool
  | .literal .. => true
  | .interpolated parts _ => pureExprs parts
  | .array items _ => pureExprs items
  | .map members _ => pureMembers members
  | .both operands _ | .either operands _ => pureExprs operands
  | .block body _ => pureStmts body
  | .name .. => true
  | .call .. | .unary .. | .binary .. | .chain .. => false

/-- Whether all expressions are pure. -/
def pureExprs : List Expr → Bool
  | [] => true
  | e :: es => e.isPure && pureExprs es

/-- Whether the values of all members are pure. -/
def pureMembers : List (String × Expr) → Bool
  | [] => true
  | (_, e) :: ms => e.isPure && pureMembers ms

/-- Whether running a statement changes nothing and comes to an end. A loop over items ends, as the items
do; one with a guard may not. -/
def Stmt.isPure : Stmt → Bool
  | .nothing _ => true
  | .expr e => e.isPure
  | .block body _ => pureStmts body
  | .branch guard body _ orElse _ _ => guard.isPure && pureStmts body && pureStmts orElse
  | .loop (some (.literal (.bool false) _)) _ _ _ => true
  | .each _ _ _ items body _ _ => items.isPure && pureStmts body
  | .attempt body _ _ handler _ => pureStmts body && pureStmts handler
  | .perform .. | .define .. | .assign .. | .loop .. | .leave .. | .skip .. | .yield .. | .throw .. | .load .. =>
    false

/-- Whether all statements are pure. -/
def pureStmts : List Stmt → Bool
  | [] => true
  | s :: ss => s.isPure && pureStmts ss

end

namespace Stmt

/-- Whether running a statement inside a block leaves no trace behind the block. -/
def isPureInside : Stmt → Bool
  | .define _ _ _ value _ => value.all Expr.isLiteral
  | .load path _ => path.isPure
  | s => s.isPure

/-- Whether the value of a statement may be that of the block. -/
def givesValue : Stmt → Bool
  | .expr .. | .perform .. | .block .. | .branch .. => true
  | _ => false

/-- Whether nothing behind a statement is ever run. -/
def isExit : Stmt → Bool
  | .leave .. | .skip .. | .yield .. | .throw .. => true
  | _ => false

mutual

/-- Whether a statement brings something into its block that must end with it. -/
def needsBlock : Stmt → Bool
  | .define .. | .load .. => true
  | .block body _ => allNeedBlock body
  | _ => false

/-- Whether all statements bring something into their block. -/
def allNeedBlock : List Stmt → Bool
  | [] => true
  | s :: ss => s.needsBlock && allNeedBlock ss

end

mutual

/-- What a statement is among the statements around it: those of a block that nothing needs go there. -/
def spread : Stmt → List Stmt
  | .block body p => if body.any needsBlock then [.block body p] else spreadAll body
  | s => [s]

/-- Statements, with those of blocks that nothing needs in place of the blocks. -/
def spreadAll : List Stmt → List Stmt
  | [] => []
  | s :: ss => s.spread ++ spreadAll ss

end

/-- Whether a statement is a block that nothing needs. -/
def isSpread : Stmt → Bool
  | .block body _ => !body.any needsBlock
  | _ => false

end Stmt

end ScriptHost.Script
