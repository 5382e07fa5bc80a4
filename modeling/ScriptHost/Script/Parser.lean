import ScriptHost.Script.Complaint
import ScriptHost.Script.Lexer
import ScriptHost.Script.Operation
import ScriptHost.Script.Tree
/-!
Reading a script from its words.

`Program.ofSource` reads functions and statements and says what is wrong at the first word that does
not fit. Every variable must be known where it is used: a function knows its parameters and its own
variables, and the id of the invocation is known everywhere.

How deep a script nests is counted while it is read. What is read lies one level deeper for every
statement, keyword, block, expression, bracket, period, sign before an operand and operator before it, and
a limit is exceeded where the level would rise above it.

The language has literals of all kinds of values, texts with expressions put in, arrays and maps; names,
calls, methods, properties and indexes; the operators of `Operator`, and `&&` and `||`; definitions,
assignments with and without an operator, blocks, `if`, `while`, `loop`, `for`, `break`, `continue`,
`return`, `throw`, `try` and `import`; and functions. It has no `do`, `until` or `switch`, no closures,
exports or private functions, and none of the operators for powers, shifts, bits, membership and missing
values: a script with one of these is complained about at its word. Of the language's own functions it
has those in `Builtin`.
-/

namespace ScriptHost.Script

/-- The constant that holds the id of the invocation. -/
def idName : String := "bridge_invocation_id"

/-- A variable that is known while a script is read. -/
structure Known where
  name : String
  constant : Bool

/-- How far a script is read. -/
structure Reader where
  words : List Placed
  /-- functions read so far, latest first -/
  functions : List Function
  /-- variables that are known, innermost first -/
  known : List Known
  /-- how many of the variables were known when the block began -/
  outer : Nat

/-- Where in a script something is read. -/
structure Mode where
  limits : Limits
  /-- how deep what is read lies -/
  level : Nat
  /-- where a complaint about the depth would be -/
  place : Place
  /-- how deep expressions may nest; zero lifts the limit -/
  depth : Nat
  /-- outside all blocks and functions -/
  isGlobal : Bool
  /-- inside a loop -/
  inLoop : Bool

/-- A step of reading. Where it fails, what was read until then shows how far it went. -/
abbrev Parse (α : Type) := ExceptT ParseError (StateM Reader) α

namespace Parse

/-- Complains about a place. -/
def complain {α : Type} (c : Complaint) (p : Place) : Parse α := throw ⟨c, p⟩

/-- The next word. -/
def peek : Parse Placed := do
  match (← get).words with
  | [] => pure ⟨.final, .first⟩
  | w :: _ => pure w

/-- Goes on behind the next word; nothing lies behind the end. -/
def advance : Parse Unit :=
  modify fun r => match r.words with
    | _ :: w :: ws => { r with words := w :: ws }
    | _ => r

/-- The word behind the next one. -/
def peekSecond : Parse Token := do
  match (← get).words with
  | _ :: w :: _ => pure w.token
  | _ => pure .final

/-- Complains about the next word: as a fault of its own if it is none. -/
def reject {α : Type} (c : Complaint) : Parse α := do
  let w ← peek
  match w.token with
  | .bad f => complain (.lexical f) w.place
  | _ => complain c w.place

/-- Takes the next word if it is a sign. -/
def accept (s : Sign) : Parse Bool := do
  let w ← peek
  if w.token = .sign s then
    advance
    pure true
  else pure false

/-- Takes the next word if it is a keyword. -/
def acceptWord (k : Keyword) : Parse Bool := do
  let w ← peek
  if w.token = .word k then
    advance
    pure true
  else pure false

/-- Takes a sign or complains that it is missing. -/
def expect (s : Sign) (purpose : String) : Parse Unit := do
  if !(← accept s) then reject (.missing s.text purpose)

/-- One level deeper. -/
def up (m : Mode) : Parse Mode :=
  if m.depth ≠ 0 ∧ m.depth ≤ m.level then complain .tooDeep m.place
  else pure { m with level := m.level + 1 }

/-- One level deeper, about a place. -/
def upAt (m : Mode) (p : Place) : Parse Mode := do
  let m ← up m
  pure { m with place := p }

/-- The name of a variable. -/
def variableName : Parse (String × Place) := do
  let w ← peek
  match w.token with
  | .name s =>
    advance
    pure (s, w.place)
  | .reserved s =>
    if s.toList.all isNameChar then complain (.reserved s) w.place else complain .nameExpected w.place
  | _ => reject .nameExpected

/-- Makes a variable known. -/
def define (s : String) (constant : Bool) : Parse Unit :=
  modify fun r => { r with known := ⟨s, constant⟩ :: r.known }

/-- Whether the block has a variable of that name already; if so it takes on the new kind. -/
def redefine (s : String) (constant : Bool) : Parse Bool := do
  let r ← get
  let inBlock := r.known.length - r.outer
  match (r.known.take inBlock).findIdx? fun k => k.name = s with
  | some n =>
    set { r with known := r.known.set n ⟨s, constant⟩ }
    pure true
  | none =>
    define s constant
    pure false

/-- Reads with variables of its own, which are forgotten afterwards. -/
def enclosed {α : Type} (body : Parse α) : Parse α := do
  let r ← get
  set { r with outer := r.known.length }
  let a ← body
  modify fun s => { s with known := s.known.drop (s.known.length - r.known.length), outer := r.outer }
  pure a

end Parse

open Parse

/-- What an expression is called that can stand for no other value. -/
def literalKind? : Expr → Option String
  | .literal .unit _ => some "()"
  | .literal (.int _) _ => some "a number"
  | .literal (.float _) _ => some "a floating-point number"
  | .literal (.char _) _ => some "a character"
  | .literal (.str _) _ | .interpolated .. => some "a string"
  | .map _ _ => some "an object map"
  | _ => none

/-- An expression that may be a condition. -/
def asCondition (e : Expr) : Parse Expr :=
  match literalKind? e, e with
  | some kind, _ => complain (.mismatch "a boolean expression" kind) e.place
  | none, .array _ p => complain (.mismatch "a boolean expression" "an array") p
  | none, _ => pure e

/-- An expression that may be looped over. -/
def asIterable (e : Expr) : Parse Expr :=
  match literalKind? e, e with
  | _, .literal (.str _) _ | _, .interpolated .. => pure e
  | some kind, _ => complain (.mismatch "an iterable value" kind) e.place
  | none, .literal (.bool _) p => complain (.mismatch "an iterable value" "a boolean") p
  | none, _ => pure e

/-- What an index is called that can be neither a whole number nor a string. -/
def indexKind? : Expr → Option String
  | .literal .unit _ => some "()"
  | .literal (.float _) _ => some "a float"
  | .literal (.char _) _ => some "a character"
  | .literal (.bool _) _ | .both .. | .either .. => some "a boolean"
  | _ => none

/-- Complains about an index that cannot be one of what it is applied to. -/
def checkIndex (root index : Expr) : Parse Unit :=
  let keyOnly (kind : String) : Parse Unit := complain (.keyExpected kind) index.start
  let positionOnly (wanted kind : String) : Parse Unit := complain (.positionExpected wanted kind) index.start
  match root with
  | .map .. =>
    match index, indexKind? index with
    | .literal (.int _) _, _ => keyOnly "a number"
    | _, some kind => keyOnly kind
    | _, none => pure ()
  | .array .. | .literal (.int _) _ | .literal (.str _) _ | .interpolated .. =>
    match index, indexKind? index with
    | .literal (.str _) _, _ | .interpolated .., _ => positionOnly "numeric" "a string"
    | _, some kind => positionOnly "integer" kind
    | _, none => pure ()
  | _ => pure ()

/-- What joins two expressions. -/
inductive Joint where
  | operator (op : Operator)
  | both
  | either

/-- The operation of a joint at a place. -/
def Joint.join (j : Joint) (lhs rhs : Expr) (p : Place) : Parse Expr := do
  match j with
  | .operator op => pure (.binary op lhs rhs p)
  | .both => pure ((← asCondition lhs).conjunction (← asCondition rhs) p)
  | .either => pure ((← asCondition lhs).disjunction (← asCondition rhs) p)

/-- What a word joins, and how strongly. -/
def joint? : Token → Option (Joint × Nat)
  | .sign .disj => some (.either, 30)
  | .sign .conj => some (.both, 60)
  | .sign .equal => some (.operator .equal, 90)
  | .sign .notEqual => some (.operator .notEqual, 90)
  | .sign .less => some (.operator .less, 130)
  | .sign .lessEqual => some (.operator .lessEqual, 130)
  | .sign .greater => some (.operator .greater, 130)
  | .sign .greaterEqual => some (.operator .greaterEqual, 130)
  | .sign .range => some (.operator .range, 140)
  | .sign .rangeInclusive => some (.operator .rangeInclusive, 140)
  | .sign .plus => some (.operator .plus, 150)
  | .sign .minus => some (.operator .minus, 150)
  | .sign .times => some (.operator .times, 180)
  | .sign .divide => some (.operator .divide, 180)
  | .sign .modulo => some (.operator .modulo, 180)
  | _ => none

/-- The operator of a compound assignment, or none of a plain one. -/
def assignment? : Token → Option (Option Operator)
  | .sign .equals => some none
  | .sign .plusEquals => some (some .plus)
  | .sign .minusEquals => some (some .minus)
  | .sign .timesEquals => some (some .times)
  | .sign .divideEquals => some (some .divide)
  | .sign .moduloEquals => some (some .modulo)
  | _ => none

/-- The negation of an expression; numbers are negated at once, to a double where none fits. -/
def negated (e : Expr) (p : Place) : Expr :=
  match e with
  | .literal (.int n) _ => .literal (if fits (-n) then .int (-n) else .float (.ofInt (-n))) p
  | .literal (.float x) _ => .literal (.float (.ofFloat (-x.toFloat))) p
  | e => .unary .negate e p

/-- Complains about a sign without a meaning where an operator could stand. -/
def checkOperator : Parse Unit := do
  let w ← peek
  match w.token with
  | .reserved s => if !isName s then complain (.unknownOperator s) w.place
  | _ => pure ()

/-- The spelling of a word that fits nowhere. -/
def Token.spelling : Token → String
  | .word k => k.text
  | .sign s => s.text
  | .reserved s | .name s => s
  | _ => ""

/-- Whether a statement needs no semicolon behind it. -/
def Stmt.endsItself : Stmt → Bool
  | .block .. | .branch .. | .loop .. | .each .. | .attempt .. => true
  | _ => false

/-- A variable where it is used. -/
def useOf (s : String) (p : Place) : Parse Expr := do
  let r ← get
  if s = idName ∨ r.known.any (·.name = s) ∨ r.functions.any (·.name = s) then pure (.name s p)
  else complain (.undefinedVariable s) p

/-- The statement that assigns to an expression, if that can be done. -/
def assignTo (target : Expr) (op : Option Operator) (value : Expr) (p : Place) : Parse Stmt := do
  match target with
  | .name s q =>
    match (← get).known.find? (·.name = s) with
    | some ⟨_, true⟩ => complain (.constantAssigned s) q
    | _ => pure (.assign target op value p)
  | .chain root links =>
    match links.getLast? with
    | some (.method _ _ r _) => complain .invalidTarget r
    | _ =>
      match root with
      | .name _ _ => pure (.assign target op value p)
      | _ => complain .invalidTarget root.place
  | .both .. | .either .. => if op.isNone then complain .typoOfEqual p else complain .invalidTarget target.place
  | _ => if target.isLiteral then complain (.constantAssigned "") target.start else complain .invalidTarget target.place

/-- A condition may not begin with a block. -/
def noBlock : Parse Unit := do
  let w ← peek
  if w.token = .sign .leftBrace then complain (.expressionExpected "a boolean") w.place

/-- A condition may not be assigned to. -/
def noAssignment : Parse Unit := do
  let w ← peek
  if w.token = .sign .equals then complain .typoOfEqual w.place

/-- What a block of statements goes on with behind one of them: whether the block goes on. -/
def statementEnd (s : Stmt) (isEnd : Token → Bool) : Parse Bool := do
  let w ← peek
  if isEnd w.token then pure false
  else if w.token = .sign .semicolon then
    advance
    pure true
  else if s.endsItself then pure true
  else reject (.missing ";" "to terminate this statement")

mutual

/-- An expression. The number bounds the calls. -/
def parseExpr : Nat → Mode → Parse Expr
  | 0, m => complain .tooDeep m.place
  | n + 1, m => do
    let m ← up { m with place := (← peek).place }
    parseJoined n m 1 (← parseUnary n m)

/-- What follows a first operand: operators that bind more strongly than `bound`, each one level deeper than
the one before it, and their operands. -/
def parseJoined : Nat → Mode → Nat → Expr → Parse Expr
  | 0, m, _, _ => complain .tooDeep m.place
  | n + 1, m, bound, lhs => do
    checkOperator
    let w ← peek
    match joint? w.token with
    | none => pure lhs
    | some (joint, strength) =>
      if strength ≤ bound then pure lhs
      else
        let deeper ← upAt { m with place := lhs.place } w.place
        advance
        let rhs ← parseUnary n m
        checkOperator
        let further := (joint? (← peek).token).any fun j => strength < j.2
        let rhs ← if further then parseJoined n m strength rhs else pure rhs
        parseJoined n deeper bound (← joint.join lhs rhs w.place)

/-- An operand with the signs before it. -/
def parseUnary : Nat → Mode → Parse Expr
  | 0, m => complain .tooDeep m.place
  | n + 1, m => do
    let w ← peek
    let m := { m with place := w.place }
    match w.token with
    | .sign .minus =>
      advance
      pure (negated (← parseUnary n (← up m)) w.place)
    | .sign .plus =>
      advance
      let e ← parseUnary n (← up m)
      pure (match e with
        | .literal (.int _) _ | .literal (.float _) _ => e
        | _ => .unary .affirm e w.place)
    | .sign .bang =>
      advance
      pure (.unary .not (← parseUnary n (← up m)) w.place)
    | _ =>
      let root ← parseRoot n m
      match ← parseLinks n m root [] with
      | [] => pure root
      | links => pure (.chain root links)

/-- An operand without what follows it. -/
def parseRoot : Nat → Mode → Parse Expr
  | 0, m => complain .tooDeep m.place
  | n + 1, m => do
    let w ← peek
    let p := w.place
    let literal (v : Value) : Parse Expr := do
      advance
      pure (.literal v p)
    match w.token with
    | .int k => literal (.int k)
    | .float x => literal (.float x)
    | .char c => literal (.char c)
    | .str s => literal (.str s)
    | .stretch s =>
      let m ← up m
      advance
      pure (.interpolated (← parseStretches n m (if s.isEmpty then [] else [.literal (.str s) p])) p)
    | .word .kTrue => literal (.bool true)
    | .word .kFalse => literal (.bool false)
    | .sign .unit => literal .unit
    | .sign .leftParen =>
      let m ← up m
      advance
      let e ← parseExpr n m
      expect .rightParen "for a matching ( in this expression"
      pure e
    | .sign .leftBracket =>
      let m ← up m
      advance
      pure (.array (← parseItems n m 0 []) p)
    | .sign .mapStart =>
      let m ← up m
      advance
      pure (.map (← parseMembers n m []) p)
    | .sign .leftBrace => do pure (.block (← parseBlock n (← up m)) p)
    | .word .kIf | .word .kWhile | .word .kLoop | .word .kFor => do
      match ← parseStmt n m with
      | some s => pure (.block [s] p)
      | none => pure (.literal .unit p)
    | .name s =>
      let second ← peekSecond
      advance
      if second = .sign .leftParen ∨ second = .sign .unit then pure (.call s (← parseArgs n m s) p)
      else useOf s p
    | .reserved s =>
      let second ← peekSecond
      if reservedFunctions.contains s ∧ s ≠ "this" ∧ (second = .sign .leftParen ∨ second = .sign .unit) then
        advance
        pure (.call s (← parseArgs n m s) p)
      else
        advance
        complain (.reserved s) p
    | .final => complain .incomplete p
    | .bad f => complain (.lexical f) p
    | t => complain (.lexical (.unexpected t.spelling)) p

/-- An expression that is put into a text, and what follows it there, behind `taken`, last first. -/
def parseStretches : Nat → Mode → (taken : List Expr) → Parse (List Expr)
  | 0, m, _ => complain .tooDeep m.place
  | n + 1, m, taken => do
    let p := (← peek).place
    let taken := .block (← parseBlock n m) p :: taken
    let w ← peek
    let extended (s : String) : List Expr := if s.isEmpty then taken else .literal (.str s) w.place :: taken
    match w.token with
    | .str s =>
      advance
      pure (extended s).reverse
    | .stretch s =>
      advance
      parseStretches n m (extended s)
    | _ => reject .incomplete

/-- Properties, method calls and indexes behind an operand, after `taken`, last first. What is behind a
period lies one level deeper than what is before it, to the end of the steps. -/
def parseLinks : Nat → Mode → Expr → (taken : List Link) → Parse (List Link)
  | 0, m, _, _ => complain .tooDeep m.place
  | n + 1, m, root, taken => do
    let w ← peek
    match w.token with
    | .sign .period =>
      advance
      let v ← peek
      let s ← match v.token with
        | .name s => pure s
        | .reserved s => if reservedMethods.contains s then pure s else complain (.reserved s) v.place
        | _ => complain .propertyExpected v.place
      let m ← upAt { m with place := w.place } v.place
      let second ← peekSecond
      if second = .sign .leftParen ∨ second = .sign .unit then
        advance
        parseLinks n m root (.method s (← parseArgs n m s) v.place w.place :: taken)
      else
        match v.token with
        | .reserved s => complain (.reserved s) v.place
        | _ =>
          advance
          parseLinks n m root (.property s v.place w.place :: taken)
    | .sign .leftBracket =>
      let taken ← parseIndexes n m (if taken.isEmpty then some root else none) taken
      parseLinks n m root taken
    | _ => pure taken.reverse

/-- Indexes one behind the other, each one level deeper than the one before it; of the first one it is known
here what it is applied to, if that is no step itself. -/
def parseIndexes : Nat → Mode → Option Expr → (taken : List Link) → Parse (List Link)
  | 0, m, _, _ => complain .tooDeep m.place
  | n + 1, m, root, taken => do
    let w ← peek
    if w.token = .sign .leftBracket then
      let m ← up { m with place := w.place }
      advance
      let e ← parseExpr n (← up m)
      match root with
      | some root => checkIndex root e
      | none => pure ()
      expect .rightBracket "for a matching [ in this index expression"
      parseIndexes n m none (.index e w.place :: taken)
    else pure taken

/-- The arguments of a call, from the opening parenthesis on. -/
def parseArgs : Nat → Mode → String → Parse (List Expr)
  | 0, m, _ => complain .tooDeep m.place
  | n + 1, m, f => do
    if ← accept .unit then pure []
    else
      expect .leftParen ""
      if ← accept .rightParen then pure []
      else if (← peek).token = .final then
        reject (.missing ")" s!"to close the arguments list of this function call '{f}'")
      else parseMoreArgs n (← up m) f []

/-- The arguments of a call behind `taken`, last first. -/
def parseMoreArgs : Nat → Mode → String → List Expr → Parse (List Expr)
  | 0, m, _, _ => complain .tooDeep m.place
  | n + 1, m, f, taken => do
    let taken ← if (← peek).token = .sign .rightParen then pure taken
      else pure ((← parseExpr n m) :: taken)
    if ← accept .rightParen then pure taken.reverse
    else if ← accept .comma then parseMoreArgs n m f taken
    else if (← peek).token = .final then
      reject (.missing ")" s!"to close the arguments list of this function call '{f}'")
    else reject (.missing "," s!"to separate the arguments to function call '{f}'")

/-- The items of an array behind `count` others, `taken`, last first, and the closing bracket. -/
def parseItems : Nat → Mode → (count : Nat) → (taken : List Expr) → Parse (List Expr)
  | 0, m, _, _ => complain .tooDeep m.place
  | n + 1, m, count, taken => do
    let w ← peek
    if exceeds m.limits.arraySize (count + 1) then
      complain (.tooLarge "Size of array literal" m.limits.arraySize) w.place
    else if ← accept .rightBracket then pure taken.reverse
    else if w.token = .final then reject (.missing "]" "to end this array literal")
    else
      let e ← parseExpr n (← up m)
      let v ← peek
      if ← accept .comma then parseItems n m (count + 1) (e :: taken)
      else if v.token = .sign .rightBracket then parseItems n m (count + 1) (e :: taken)
      else if v.token = .final then reject (.missing "]" "to end this array literal")
      else reject (.missing "," "to separate the items of this array literal")

/-- The members of a map behind `taken`, last first, and the closing brace. -/
def parseMembers : Nat → Mode → List (String × Expr) → Parse (List (String × Expr))
  | 0, m, _ => complain .tooDeep m.place
  | n + 1, m, taken => do
    if ← accept .rightBrace then pure taken.reverse
    else
      let w ← peek
      let key ← match w.token with
        | .name s | .str s =>
          if taken.any (·.1 = s) then complain (.duplicateProperty s) w.place
          else
            advance
            pure s
        | .reserved s =>
          if s.toList.all isNameChar then complain (.reserved s) w.place else complain .propertyExpected w.place
        | .final => reject (.missing "\x7d" "to end this object map literal")
        | _ =>
          if taken.isEmpty then reject (.missing "\x7d" "to end this object map literal")
          else reject .propertyExpected
      expect .colon s!"to follow the property '{key}' in this object map literal"
      if exceeds m.limits.mapSize (taken.length + 1) then
        complain (.tooLarge "Number of properties in object map literal" m.limits.mapSize) (← peek).place
      else
        let e ← parseExpr n (← up m)
        let v ← peek
        if ← accept .comma then parseMembers n m ((key, e) :: taken)
        else
          match v.token with
          | .sign .rightBrace => parseMembers n m ((key, e) :: taken)
          | .name _ => reject (.missing "," "to separate the items of this object map literal")
          | _ => reject (.missing "\x7d" "to end this object map literal")

/-- A block of statements from its opening brace on. -/
def parseBlock : Nat → Mode → Parse (List Stmt)
  | 0, m => complain .tooDeep m.place
  | n + 1, m => do
    let w ← peek
    expect .leftBrace "to start a statement block"
    let m ← upAt m w.place
    enclosed (parseBody n { m with isGlobal := false } [])

/-- The statements of a block behind `taken`, last first, and the closing brace. -/
def parseBody : Nat → Mode → List Stmt → Parse (List Stmt)
  | 0, m, _ => complain .tooDeep m.place
  | n + 1, m, taken => do
    let w ← peek
    if w.token = .sign .rightBrace then
      advance
      pure taken.reverse
    else if w.token = .final then reject (.missing "\x7d" "to terminate this block")
    else
      match ← parseStmt n m with
      | none => parseBody n m taken
      | some s =>
        let _ ← statementEnd s (· = .sign .rightBrace)
        parseBody n m (s :: taken)

/-- A guard, and the block that it guards, which may be that of a loop. -/
def parseGuarded : Nat → Mode → (isLoop : Bool) → Parse (Expr × List Stmt × Place)
  | 0, m, _ => complain .tooDeep m.place
  | n + 1, m, isLoop => do
    noBlock
    let guard ← asCondition (← parseExpr n m)
    noAssignment
    let w ← peek
    let body ← parseBlock n { m with inLoop := m.inLoop || isLoop }
    pure (guard, body, w.place)

/-- A branch from its keyword on. -/
def parseBranch : Nat → Mode → Parse Stmt
  | 0, m => complain .tooDeep m.place
  | n + 1, m => do
    let p := (← peek).place
    let m ← upAt m p
    advance
    let (guard, body, q) ← parseGuarded n m false
    let (orElse, r) ← parseElse n m
    pure (.branch guard body q orElse r p)

/-- What follows a branch, and where, if anything does. -/
def parseElse : Nat → Mode → Parse (List Stmt × Place)
  | 0, m => complain .tooDeep m.place
  | n + 1, m => do
    if !(← acceptWord .kElse) then pure ([], m.place)
    else
      let w ← peek
      if w.token = .word .kIf then pure ([← parseBranch n m], w.place)
      else pure (← parseBlock n m, w.place)

/-- A loop over items, from its keyword on. -/
def parseEach : Nat → Mode → Parse Stmt
  | 0, m => complain .tooDeep m.place
  | n + 1, m => do
    let p := (← peek).place
    let m ← upAt m p
    advance
    let ((s, q), counter) ←
      if ← accept .leftParen then do
        let item ← variableName
        expect .comma "after the iteration variable name"
        let counter ← variableName
        if counter.1 = item.1 then complain (.duplicateVariable counter.1) counter.2
        expect .rightParen "to close the iteration variable"
        pure (item, some counter.1)
      else do
        let item ← variableName
        pure (item, none)
    if !(← acceptWord .kIn) then reject (.missing "in" "after the iteration variable")
    noBlock
    let items ← asIterable (← parseExpr n m)
    let outer := (← get).outer
    let count := (← get).known.length
    match counter with
    | some c => define c false
    | none => pure ()
    define s false
    let w ← peek
    let body ← parseBlock n { m with inLoop := true }
    modify fun r => { r with known := r.known.drop (r.known.length - count), outer }
    pure (.each s q counter items body w.place p)

/-- A block whose failures are handled, from its keyword on. -/
def parseAttempt : Nat → Mode → Parse Stmt
  | 0, m => complain .tooDeep m.place
  | n + 1, m => do
    let p := (← peek).place
    let m ← upAt m p
    advance
    let q := (← peek).place
    let body ← parseBlock n m
    if !(← acceptWord .kCatch) then reject (.missing "catch" "for the 'try' statement")
    let count := (← get).known.length
    let binder ← if ← accept .leftParen then do
        let v ← variableName
        expect .rightParen "to enclose the catch variable"
        define v.1 false
        pure (some v)
      else pure none
    let handler ← parseBlock n m
    modify fun r => { r with known := r.known.drop (r.known.length - count) }
    pure (.attempt body q binder handler p)

/-- The expression behind `return`, `throw` or `break`, if there is one: there is none where it fails
before it takes a word. -/
def parseOptional : Nat → Mode → Parse (Option Expr)
  | 0, m => complain .tooDeep m.place
  | n + 1, m => do
    let w ← peek
    if w.token = .final ∨ w.token = .sign .semicolon ∨ (w.token = .sign .rightBrace ∧ !m.isGlobal) then pure none
    else
      let m ← up m
      let ahead := (← get).words.length
      tryCatch (some <$> parseExpr n m) fun e => do
        if (← get).words.length = ahead then pure none else throw e

/-- A function from its keyword on. -/
def parseFunction : Nat → Mode → Parse Unit
  | 0, m => complain .tooDeep m.place
  | n + 1, m => do
    let p := (← peek).place
    advance
    let w ← peek
    let f ← match w.token with
      | .name s =>
        advance
        pure s
      | .reserved s => complain (.reserved s) w.place
      | _ => reject .functionNameExpected
    let params ← if ← accept .unit then pure []
      else if ← accept .leftParen then
        if ← accept .rightParen then pure [] else parseParams n f []
      else reject (.paramsExpected f)
    let v ← peek
    if v.token ≠ .sign .leftBrace then reject (.bodyExpected f)
    let r ← get
    set { r with known := params.reverse.map (⟨·, false⟩), outer := 0 }
    let body ← parseBlock n (← up ⟨m.limits, 0, p, m.limits.functionExprDepth, false, false⟩)
    if r.functions.any fun g => g.name = f ∧ g.params.length = params.length then
      complain (.duplicateFunction f params.length) p
    modify fun s => { s with known := r.known, outer := r.outer, functions := ⟨f, params, body⟩ :: s.functions }

/-- The parameters of a function behind `taken`, last first, and the closing parenthesis. -/
def parseParams : Nat → String → List String → Parse (List String)
  | 0, f, _ => complain (.paramsExpected f) .first
  | n + 1, f, taken => do
    let w ← peek
    match w.token with
    | .sign .rightParen =>
      advance
      pure taken.reverse
    | .name s =>
      if taken.contains s then complain (.duplicateParam f s) w.place
      else
        advance
        if ← accept .rightParen then pure (s :: taken).reverse
        else if ← accept .comma then parseParams n f (s :: taken)
        else reject (.missing "," s!"to separate the parameters of function '{f}'")
    | .word _ => complain .nameExpected w.place
    | _ => reject (.missing ")" s!"to close the parameters list of function '{f}'")

/-- A variable and its value, from the keyword on. -/
def parseDefinition : Nat → Mode → (constant : Bool) → Parse Stmt
  | 0, m, _ => complain .tooDeep m.place
  | n + 1, m, constant => do
    let p := (← peek).place
    let m ← upAt m p
    advance
    let (s, _) ← variableName
    let value ← if ← accept .equals then some <$> parseExpr n m else pure none
    let reuse ← redefine s constant
    pure (.define constant reuse s value p)

/-- A module to load, from the keyword on. -/
def parseLoad : Nat → Mode → Parse Stmt
  | 0, m => complain .tooDeep m.place
  | n + 1, m => do
    let p := (← peek).place
    let m ← upAt m p
    advance
    let path ← parseExpr n m
    if ← acceptWord .kAs then
      let _ ← variableName
    pure (.load path p)

/-- A loop from its keyword on; it has a guard or not. -/
def parseLoop : Nat → Mode → (isGuarded : Bool) → Parse Stmt
  | 0, m, _ => complain .tooDeep m.place
  | n + 1, m, isGuarded => do
    let p := (← peek).place
    let m ← upAt m p
    advance
    if isGuarded then
      let (guard, body, q) ← parseGuarded n m true
      pure (.loop (some guard) body q p)
    else
      let q := (← peek).place
      let body ← parseBlock n { m with inLoop := true }
      pure (.loop none body q p)

/-- A statement that is an expression or an assignment. -/
def parseAssignment : Nat → Mode → Parse Stmt
  | 0, m => complain .tooDeep m.place
  | n + 1, m => do
    let m ← up m
    let e ← parseExpr n m
    let v ← peek
    match assignment? v.token with
    | none => pure (.expr e)
    | some op =>
      advance
      let value ← parseExpr n m
      assignTo e op value v.place

/-- A statement; none for a lone semicolon, a function and the end of the script. -/
def parseStmt : Nat → Mode → Parse (Option Stmt)
  | 0, m => complain .tooDeep m.place
  | n + 1, m => do
    let w ← peek
    let p := w.place
    let m := { m with place := p }
    match w.token with
    | .final => pure none
    | .sign .semicolon =>
      advance
      pure none
    | .sign .leftBrace => pure (some (.block (← parseBlock n (← up m)) p))
    | .word .kFn =>
      if !m.isGlobal then complain .nestedFunction p
      else if m.limits.functions ≤ (← get).functions.length then complain .tooManyFunctions p
      else
        parseFunction n m
        pure none
    | .word .kIf => some <$> parseBranch n (← up m)
    | .word .kWhile => some <$> parseLoop n (← up m) true
    | .word .kLoop => some <$> parseLoop n (← up m) false
    | .word .kFor => some <$> parseEach n (← up m)
    | .word .kTry => some <$> parseAttempt n (← up m)
    | .word .kLet => some <$> parseDefinition n (← up m) false
    | .word .kConst => some <$> parseDefinition n (← up m) true
    | .word .kImport => some <$> parseLoad n (← up m)
    | .word .kBreak =>
      if !m.inLoop then complain .outsideLoop p
      else
        advance
        pure (some (.leave (← parseOptional n m) p))
    | .word .kContinue =>
      if !m.inLoop then complain .outsideLoop p
      else
        advance
        pure (some (.skip p))
    | .word .kReturn =>
      advance
      pure (some (.yield (← parseOptional n m) p))
    | .word .kThrow =>
      advance
      pure (some (.throw (← parseOptional n m) p))
    | _ => some <$> parseAssignment n m

end

/-- The statements outside functions behind `taken`, last first. -/
def parseGlobal (calls : Nat) (m : Mode) : Nat → List Stmt → Parse (List Stmt)
  | 0, taken => pure taken.reverse
  | n + 1, taken => do
    if (← peek).token = .final then pure taken.reverse
    else
      match ← parseStmt calls m with
      | none => parseGlobal calls m n taken
      | some s =>
        if ← statementEnd s (· = .final) then parseGlobal calls m n (s :: taken)
        else pure (s :: taken).reverse

/-- Reads a script of the language that this module describes; anything else is complained about. -/
def Program.ofSource (limits : Limits) (source : String) : Except ParseError Program :=
  let words := Token.scan limits source
  let m : Mode := ⟨limits, 0, .first, limits.exprDepth, true, false⟩
  let (outcome, r) := (parseGlobal (16 * words.length + 16) m (words.length + 1) []).run.run ⟨words, [], [], 0⟩
  outcome.map fun body => ⟨r.functions.reverse, body⟩

end ScriptHost.Script
