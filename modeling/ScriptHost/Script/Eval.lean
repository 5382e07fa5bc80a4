import ScriptHost.Script.Access
import ScriptHost.Script.Builtin
import ScriptHost.Script.Machine
/-!
Evaluating scripts.

Every function here takes a number that bounds how deep its calls nest; where it is used up the
evaluation counts as taking too long. Statements take a step, and so do expressions, calls of functions,
and looking into a value.
-/

namespace ScriptHost.Script

/-- What stays the same during a call of a function. -/
structure Context where
  limits : Limits
  api : Api
  functions : List Function
  /-- calls of functions inside one another so far -/
  level : Nat

/-- A step into a value, its index or arguments evaluated; `sign` is the place of the sign before it. -/
inductive Stride where
  | index (v : Value) (p sign : Place)
  | property (s : String) (p sign : Place)
  | method (f : String) (args : List Value) (p : Place)

/-- The variable from which steps start, and where it is used. -/
structure Origin where
  name : String
  place : Place

/-- How a value is held. -/
structure Hold where
  /-- what a change of the value leads to: what holds it takes the new one -/
  write : Value → Run Unit
  /-- what of the value may not change -/
  fixed : Option Value
  /-- whether a variable holds the value -/
  isHeld : Bool

namespace Hold

/-- How a value is held that nothing holds: a change of it is lost. -/
def loose : Hold := ⟨fun _ => pure (), none, false⟩

/-- How a variable holds its value. -/
def ofVariable (x : Variable) : Hold := ⟨fun v => Run.assign x.name v x.fixed, x.fixed, true⟩

/-- How a value holds its part at an index, given how it is held itself. -/
def part (h : Hold) (t : HostType) (v index : Value) (p : Place) : Hold where
  write new := do h.write (← Run.ofExcept p (v.withItem t index new))
  fixed := Value.fixedPart h.fixed index
  isHeld := h.isHeld

end Hold

/-- What a loop goes over. -/
inductive Supply where
  | items (vs : List Value)
  | numbers (low : Int) (count : Nat)

/-- The next item, and what follows it. -/
def Supply.next? : Supply → Option (Value × Supply)
  | .items [] => none
  | .items (v :: vs) => some (v, .items vs)
  | .numbers _ 0 => none
  | .numbers low (n + 1) => some (.int low, .numbers (low + 1) n)

/-- The items that a loop over a value goes over. -/
def Supply.ofValue? : Value → Option Supply
  | .array xs => some (.items xs)
  | .str s => some (.items (s.toList.map .char))
  | .range low high inclusive => some (.numbers low (high - low + if inclusive then 1 else 0).toNat)
  | _ => none

namespace Context

open Run

/-- The type of the host's values. -/
def hostType (c : Context) : HostType := c.api.hostType

/-- The function of the script that has a name and takes so many arguments. -/
def function? (c : Context) (f : String) (arity : Nat) : Option Function :=
  c.functions.find? fun g => g.name = f && g.params.length == arity

/-- The value of a variable; the name of a function stands for a pointer to it. -/
def read (c : Context) (s : String) (p : Place) : Run Variable := do
  match ← lookup? s with
  | some x => pure x
  | none =>
    if c.functions.any (·.name = s) then pure ⟨s, .function s, none⟩
    else fail (.variableNotFound s) p

/-- A truth value, or a complaint about a place. -/
def truth (c : Context) (v : Value) (p : Place) : Run Bool :=
  match v with
  | .bool b => pure b
  | v => fail (.mismatch (v.typePath c.hostType) "bool") p

/-! ## Operators -/

/-- What the function of an operator makes of two values, or a complaint that there is none. -/
def callOperator (c : Context) (op : Operator) (a b : Value) (p : Place) : Run Value := do
  tick c.limits p
  match atOnce op a b with
  | some r => sized c.limits (← ofExcept p r) p
  | none =>
    match called c.hostType op a b with
    | some r =>
      checkSteps c.limits r.depth p
      sized c.limits (← ofExcept p r.result) p
    | none => fail (.functionNotFound (signature c.hostType op.text [a, b])) p

/-- What an operator makes of two values. -/
def operate (c : Context) (op : Operator) (a b : Value) (p : Place) : Run Value :=
  match atOnce op a b with
  | some r => do sized c.limits (← ofExcept p r) p
  | none => c.callOperator op a b p

/-- What an operator makes of one value. -/
def operateOne (c : Context) (op : Operator) (a : Value) (p : Place) : Run Value := do
  match unary op a with
  | some r => ofExcept p r
  | none => do
    tick c.limits p
    fail (.functionNotFound (signature c.hostType op.text [a])) p

/-- The text of a value inside another text. What is no string is spelt by a function; where no step is left for
its call, the value is shown in detail. -/
def spell (c : Context) (v : Value) : Run String := do
  match v with
  | .str s => pure s
  | v =>
    match ← attempt (checkSteps c.limits 1 none) with
    | .ok _ => pure (v.text (.printed c.hostType))
    | .error _ => pure (v.detail ⟨c.hostType.name, true⟩)

/-- What an assignment puts in place of a value. An array that grows is looked at before it does. -/
def combine (c : Context) (op : Option Operator) (old new : Value) (p : Place) : Run Value := do
  match op with
  | none => pure new
  | some op =>
    match op, old, new with
    | .plus, .array (_ :: _), .array [] => pure ()
    | .plus, .array (x :: xs), _ => checkExtent c.limits (Value.array (x :: xs)).extent p
    | _, _, _ => pure ()
    match update c.hostType op old new with
    | .atOnce r =>
      match ← ofExcept p r with
      | .array xs => pure (.array xs)
      | v => sized c.limits v p
    | .called r => do
      tick c.limits p
      sized c.limits (← ofExcept p r) p
    | .asOperator => do
      tick c.limits p
      c.callOperator op old new p

/-! ## Functions -/

/-- Calls a function that the script does not define. The first argument may change, but not if it is a
constant; if it is held, it may not be too large afterwards, whether it has changed or not. -/
def callOuter (c : Context) (f : String) (args : List Value) (h : Hold) (p : Place) : Run Value := do
  tick c.limits p
  let checked : Run Unit := if h.isHeld then args.head?.forM fun v => do let _ ← sized c.limits v p else pure ()
  match reply c.api f args with
  | .value v => do
    let v ← sized c.limits v p
    checked
    pure v
  | .changed v result =>
    if h.fixed.isSome then fail (.methodOnConstant f) p
    else do
      let result ← sized c.limits result p
      h.write (← sized c.limits v p)
      pure result
  | .fault e => fail e p
  | .printed s => do
    let _ ← sized c.limits (.str s) p
    checked
    if c.api.listens then print (.printed s)
    pure .unit
  | .debugged s => do
    let _ ← sized c.limits (.str s) p
    checked
    if c.api.listens then print (.debugged s p)
    pure .unit
  | .raised message => raise (.thrown (.str message) p)
  | .panicked text => raise (.panicked text)

/-- A pointer to the function of a name. -/
def pointer (c : Context) (v : Value) (p : Place) : Run Value :=
  match v with
  | .str s =>
    if isFunctionName s then pure (.function s)
    else if isReserved s then raise (.exceeded (.reserved (.reserved s)) p)
    else fail (.functionNotFound s) p
  | v => fail (.mismatch (v.typePath c.hostType) "string") p

/-! ## Parts of values -/

/-- The part at an index; `sign` is the place of the bracket. -/
def itemAt (c : Context) (v i : Value) (p sign : Place) : Run Value := do
  tick c.limits none
  match v.item c.hostType i with
  | .ok x => pure x
  | .error (.notIndexed s) => do
    tick c.limits sign
    fail (.notIndexed s) sign
  | .error f => fail f p

/-- The property of a value that is no map. -/
def propertyOf (c : Context) (v : Value) (s : String) (p sign : Place) : Run Value := do
  tick c.limits p
  match v.property c.hostType s with
  | .ok x => pure x
  | .error f => do
    tick c.limits sign
    fail f p

/-- A value that gains nothing as the member at an index, if it is a map that lacks it. -/
def withMember (v i : Value) (h : Hold) : Run Value :=
  match v, i with
  | .map ms, .str k =>
    if (ms.lookup k).isNone then do
      let v := Value.map (Members.put k .unit ms)
      h.write v
      pure v
    else pure v
  | v, _ => pure v

/-- Assigns to the part at an index; `p` is the place of the assignment, `q` of the index. -/
def assignItem (c : Context) (o : Origin) (op : Option Operator) (v i new : Value) (h : Hold)
    (p q sign : Place) : Run Unit := do
  tick c.limits none
  match v.place c.hostType i with
  | .ok old =>
    let v ← withMember v i h
    if (Value.fixedPart h.fixed i).isSome then fail (.constantModified o.name) o.place
    let x ← c.combine op old new p
    h.write (← ofExcept p (v.withItem c.hostType i x))
    let _ ← sized c.limits x p
  | .error (.notIndexed _) =>
    if op.isSome then tick c.limits sign
    tick c.limits sign
    fail (v.notStored c.hostType i new) sign
  | .error f => fail f q

/-- Assigns to a property. -/
def assignProperty (c : Context) (o : Origin) (op : Option Operator) (v : Value) (s : String) (new : Value)
    (h : Hold) (p q sign : Place) : Run Unit := do
  match v with
  | .map ms =>
    tick c.limits none
    let v ← withMember v (.str s) h
    if (Value.fixedPart h.fixed (.str s)).isSome then fail (.constantModified o.name) o.place
    let x ← c.combine op ((ms.lookup s).getD .unit) new p
    let v ← ofExcept p (v.withItem c.hostType (.str s) x)
    h.write v
    let _ ← sized c.limits v p
  | v =>
    let x ← match op with
      | none => pure new
      | some _ => do c.combine op (← c.propertyOf v s q sign) new p
    tick c.limits q
    tick c.limits sign
    fail (.propertyReadOnly s (v.typeName c.hostType) (x.typeName c.hostType)) q

end Context

open Run Context

mutual

/-- Evaluates an expression. -/
def evalExpr : Nat → Context → Expr → Run Value
  | 0, _, _ => raise .timedOut
  | n + 1, c, e => do
    tick c.limits e.place
    match e with
    | .literal v _ => pure v
    | .interpolated parts _ => do pure (.str (← evalParts n c parts ""))
    | .array items _ => pure (.array (← evalItems n c items ⟨0, 0, 0⟩))
    | .map members _ => pure (.map (Members.sort (← evalMembers n c members ⟨0, 0, 0⟩)))
    | .name s p => pure (← c.read s p).value
    | .both es _ => do pure (.bool (← evalUntil n c false es))
    | .either es _ => do pure (.bool (← evalUntil n c true es))
    | .chain root links => do
      let strides ← evalSteps n c links
      match root with
      | .name s p =>
        tick c.limits p
        let x ← c.read s p
        walk n c x.value (.ofVariable x) strides
      | root => walk n c (← evalExpr n c root) .loose strides
    | .block body _ => evalBlock n c body
    | e => perform n c e

/-- Evaluates the parts of a text; `taken` is the text so far. -/
def evalParts : Nat → Context → List Expr → (taken : String) → Run String
  | 0, _, _, _ => raise .timedOut
  | _ + 1, _, [], taken => pure taken
  | n + 1, c, e :: es, taken => do
    let v ← evalExpr n c e
    let taken := taken ++ (← c.spell v)
    checkExtent c.limits ⟨0, 0, taken.utf8ByteSize⟩ e.place
    evalParts n c es taken

/-- Evaluates conditions up to the first one that comes out as `sought`: whether there is one, as far as
`sought` is the truth, and whether there is none otherwise. -/
def evalUntil : Nat → Context → (sought : Bool) → List Expr → Run Bool
  | 0, _, _, _ => raise .timedOut
  | _ + 1, _, sought, [] => pure !sought
  | n + 1, c, sought, e :: es => do
    let b ← c.truth (← evalExpr n c e) e.place
    if b == sought then pure b else evalUntil n c sought es

/-- Performs an operation. -/
def perform : Nat → Context → Expr → Run Value
  | 0, _, _ => raise .timedOut
  | n + 1, c, e => do
    match e with
    | .call f args p => evalCall n c f args p
    | .unary op a p => do
      let a ← evalArg n c a
      c.operateOne op a p
    | .binary op l r p => do
      let a ← evalArg n c l
      let b ← evalArg n c r
      c.operate op a b p
    | e => evalExpr n c e

/-- Evaluates the items of an array; `total` is what the items so far hold. -/
def evalItems : Nat → Context → List Expr → (total : Value.Extent) → Run (List Value)
  | 0, _, _, _ => raise .timedOut
  | _ + 1, _, [], _ => pure []
  | n + 1, c, e :: es, total => do
    let v ← evalExpr n c e
    let total := (total.add v.extent).add ⟨1, 0, 0⟩
    checkExtent c.limits total e.place
    pure (v :: (← evalItems n c es total))

/-- Evaluates the members of a map, as `evalItems` does the items of an array. -/
def evalMembers : Nat → Context → List (String × Expr) → (total : Value.Extent) → Run (List (String × Value))
  | 0, _, _, _ => raise .timedOut
  | _ + 1, _, [], _ => pure []
  | n + 1, c, (k, e) :: es, total => do
    let v ← evalExpr n c e
    let total := (total.add v.extent).add ⟨0, 1, 0⟩
    checkExtent c.limits total e.place
    pure ((k, v) :: (← evalMembers n c es total))

/-- Evaluates an operand or argument. -/
def evalArg : Nat → Context → Expr → Run Value
  | 0, _, _ => raise .timedOut
  | n + 1, c, e =>
    match e.literal? with
    | some v => do
      tick c.limits e.start
      pure v
    | none => evalExpr n c e

/-- Evaluates arguments. -/
def evalArgs : Nat → Context → List Expr → Run (List Value)
  | 0, _, _ => raise .timedOut
  | _ + 1, _, [] => pure []
  | n + 1, c, e :: es => do
    let v ← evalArg n c e
    pure (v :: (← evalArgs n c es))

/-- Evaluates what a step into a value needs. -/
def evalLink : Nat → Context → Link → Run Stride
  | 0, _, _ => raise .timedOut
  | n + 1, c, l => do
    match l with
    | .index e sign => pure (.index (← evalExpr n c e) e.start sign)
    | .property s p sign => pure (.property s p sign)
    | .method f args p _ => pure (.method f (← evalArgs n c args) p)

/-- Evaluates what the steps into a value need, before any of them is taken; each counts as a step of the
evaluation, at the place of the sign before the next one. -/
def evalLinks : Nat → Context → List Link → Run (List Stride)
  | 0, _, _ => raise .timedOut
  | _ + 1, _, [] => pure []
  | n + 1, c, l :: ls => do
    tick c.limits (match ls with
      | next :: _ => next.sign
      | [] => l.place Expr.place)
    let stride ← evalLink n c l
    pure (stride :: (← evalLinks n c ls))

/-- As `evalLinks`, but a single step that needs nothing evaluated takes no step of the evaluation. -/
def evalSteps : Nat → Context → List Link → Run (List Stride)
  | 0, _, _ => raise .timedOut
  | n + 1, c, links =>
    match links with
    | [.property s p sign] => pure [.property s p sign]
    | [.method f [] p _] => pure [.method f [] p]
    | [.index e sign] =>
      match e.literal? with
      | some v => pure [.index v e.start sign]
      | none => evalLinks n c links
    | links => evalLinks n c links

/-- Takes steps into a value; `h` is how the value is held. -/
def walk : Nat → Context → Value → Hold → List Stride → Run Value
  | 0, _, _, _, _ => raise .timedOut
  | _ + 1, _, v, _, [] => pure v
  | n + 1, c, v, h, stride :: strides => do
    match stride with
    | .index i p sign =>
      let x ← c.itemAt v i p sign
      walk n c x (h.part c.hostType v i p) strides
    | .property s p sign =>
      match v with
      | .map _ =>
        let x ← c.itemAt v (.str s) p sign
        walk n c x (h.part c.hostType v (.str s) p) strides
      | v => walk n c (← c.propertyOf v s p sign) .loose strides
    | .method f args p =>
      let r ← callMethod n c v f args h p
      walk n c r .loose strides

/-- Calls a method of a value. -/
def callMethod : Nat → Context → Value → String → List Value → Hold → Place → Run Value
  | 0, _, _, _, _, _, _ => raise .timedOut
  | n + 1, c, v, f, args, h, p => do
    match c.function? f args.length with
    | some g => runFunction n c g args p
    | none => c.callOuter f (v :: args) h p

/-- Assigns at the end of steps into a value; `p` is the place of the assignment. -/
def store : Nat → Context → Origin → (op : Option Operator) → (v new : Value) → Hold → (p : Place) →
    List Stride → Run Unit
  | 0, _, _, _, _, _, _, _, _ => raise .timedOut
  | _ + 1, _, _, _, _, _, _, _, [] => pure ()
  | n + 1, c, o, op, v, new, h, p, stride :: strides => do
    match stride, strides with
    | .index i q sign, [] => c.assignItem o op v i new h p q sign
    | .property s q sign, [] => c.assignProperty o op v s new h p q sign
    | .index i q sign, strides =>
      let x ← c.itemAt v i q sign
      store n c o op x new (h.part c.hostType v i p) p strides
    | .property s q sign, strides =>
      match v with
      | .map _ =>
        let x ← c.itemAt v (.str s) q sign
        store n c o op x new (h.part c.hostType v (.str s) p) p strides
      | v => do
        store n c o op (← c.propertyOf v s q sign) new .loose p strides
        tick c.limits q
        tick c.limits sign
    | .method f args q, strides =>
      let r ← callMethod n c v f args h q
      store n c o op r new .loose p strides

/-- Calls the function of a name; `h` is how the first argument is held. -/
def callFunction : Nat → Context → String → List Value → Hold → Place → Run Value
  | 0, _, _, _, _, _ => raise .timedOut
  | n + 1, c, f, args, h, p => do
    match c.function? f args.length with
    | some g => runFunction n c g args p
    | none => c.callOuter f args h p

/-- Evaluates a call. A variable that is its first argument is looked at after the other arguments and may
change, unless it is a constant: then the function works on a copy. -/
def evalCall : Nat → Context → String → List Expr → Place → Run Value
  | 0, _, _, _, _ => raise .timedOut
  | n + 1, c, f, args, p => do
    match f, args with
    | "Fn", [e] => c.pointer (← evalArg n c e) e.start
    | _, .name s q :: others =>
      tick c.limits q
      let vs ← evalArgs n c others
      let x ← c.read s q
      callFunction n c f (x.value :: vs) (if x.isConstant then .loose else .ofVariable x) p
    | _, args => callFunction n c f (← evalArgs n c args) .loose p

/-- Runs a function of the script with variables of its own. -/
def runFunction : Nat → Context → Function → List Value → Place → Run Value
  | 0, _, _, _, _ => raise .timedOut
  | n + 1, c, g, args, p => do
    if g.body.isEmpty then pure .unit
    else
      tick c.limits p
      if c.limits.callLevels ≤ c.level then raise (.exceeded .callLevels p)
      if c.limits.variableCount < g.params.length then raise (.exceeded .variableCount p)
      let scope := ((g.params.zip args).map fun a => (⟨a.1, a.2, none⟩ : Variable)).reverse
      match ← attempt (apart scope (evalBody n { c with level := c.level + 1 } g.body .unit)) with
      | .ok v => pure v
      | .error (.returned v) => pure v
      | .error (.raised r) => raise (r.leaving g.name p)
      | .error e => throw e

/-- Evaluates an expression, or takes nothing where there is none. -/
def evalOptional : Nat → Context → Option Expr → Run Value
  | 0, _, _ => raise .timedOut
  | _ + 1, _, none => pure .unit
  | n + 1, c, some e => evalExpr n c e

/-- Assigns to what an expression stands for; `p` is the place of the assignment. Only variables and
their parts hold values. -/
def evalAssign : Nat → Context → Expr → (op : Option Operator) → (new : Value) → Place → Run Unit
  | 0, _, _, _, _, _ => raise .timedOut
  | n + 1, c, target, op, new, p => do
    match target with
    | .name s q => do
      match ← lookup? s with
      | none => fail (if c.functions.any (·.name = s) then .constantModified s else .variableNotFound s) q
      | some x =>
        tick c.limits q
        if x.isConstant then fail (.constantModified s) q
        else assign s (← c.combine op x.value new p) none
    | .chain (.name s q) links => do
      let strides ← evalSteps n c links
      tick c.limits q
      let x ← c.read s q
      store n c ⟨s, q⟩ op x.value new (.ofVariable x) p strides
    | _ => raise (.panicked "assignment to what holds no value")

/-- Runs a statement; its value is that of the script if it is the last one. -/
def evalStmt : Nat → Context → Stmt → Run Value
  | 0, _, _ => raise .timedOut
  | n + 1, c, s => do
    tick c.limits s.place
    match s with
    | .nothing _ => pure .unit
    | .expr e => evalExpr n c e
    | .perform e => perform n c e
    | .define constant reuse s value p => do
      if !reuse then checkRoom c.limits 1 p
      if value.isNone then tick c.limits none
      let v ← evalOptional n c value
      let fixed := if constant then some v else none
      if reuse then assign s v fixed else bring s v fixed
      pure .unit
    | .assign target op value p => do
      let new ← evalExpr n c value
      evalAssign n c target op new p
      pure .unit
    | .block body _ => evalBlock n c body
    | .branch guard body _ orElse _ _ => do
      if ← c.truth (← evalExpr n c guard) guard.place then evalBlock n c body else evalBlock n c orElse
    | .loop guard body q _ =>
      match guard, body with
      | none, [] => spin c.limits q
      | guard, body => evalLoop n c guard body q
    | .each s sPlace counter items body q _ => do
      checkRoom c.limits (if counter.isSome then 2 else 1) sPlace
      let v ← evalExpr n c items
      match Supply.ofValue? v with
      | none => fail .notIterable items.start
      | some supply =>
        enclosed do
          match counter with
          | some s => bring s (.int 0) none
          | none => pure ()
          bring s .unit none
          evalEach n c s counter supply 0 body q
    | .leave value _ => do throw (.left (← evalOptional n c value))
    | .skip _ => throw .skipped
    | .yield value _ => do throw (.returned (← evalOptional n c value))
    | .throw value p => do raise (.thrown (← evalOptional n c value) p)
    | .attempt body _ binder handler _ => do
      match ← attempt (evalBlock n c body) with
      | .ok v => pure v
      | .error (.raised r) =>
        if !r.isCatchable then raise r
        else
          let result ← attempt (enclosed do
            match binder with
            | some (s, q) =>
              checkRoom c.limits 1 q
              bring s (r.caught c.hostType) none
            | none => pure ()
            evalBlock n c handler)
          match result with
          | .ok _ => pure .unit
          | .error (.raised (.thrown .unit q)) => raise (r.moved q)
          | .error e => throw e
      | .error e => throw e
    | .load path p => do
      if c.limits.modules = 0 then raise (.exceeded .modules p)
      match ← evalExpr n c path with
      | .str s => fail (.moduleNotFound s) path.start
      | v => fail (.mismatch (v.typePath c.hostType) "string") path.place

/-- Runs statements with variables of their own. -/
def evalBlock : Nat → Context → List Stmt → Run Value
  | 0, _, _ => raise .timedOut
  | n + 1, c, body => enclosed (evalBody n c body .unit)

/-- Runs statements one after another; `last` is the value of the one before. -/
def evalBody : Nat → Context → List Stmt → (last : Value) → Run Value
  | 0, _, _, _ => raise .timedOut
  | _ + 1, _, [], last => pure last
  | n + 1, c, s :: ss, _ => do
    let v ← evalStmt n c s
    evalBody n c ss v

/-- Runs a loop from its guard on. -/
def evalLoop : Nat → Context → Option Expr → List Stmt → Place → Run Value
  | 0, _, _, _, _ => raise .timedOut
  | n + 1, c, guard, body, q => do
    let goesOn ← match guard with
      | some e => c.truth (← evalExpr n c e) e.place
      | none => pure true
    if !goesOn then pure .unit
    else
      if body.isEmpty then tick c.limits q
      match ← attempt (evalBlock n c body) with
      | .ok _ | .error .skipped => evalLoop n c guard body q
      | .error (.left v) => pure v
      | .error e => throw e

/-- Runs a loop over what is left of its items; `count` items came before. An item takes a step of its own
only where there is nothing to run. -/
def evalEach : Nat → Context → String → Option String → Supply → Nat → List Stmt → Place → Run Value
  | 0, _, _, _, _, _, _, _ => raise .timedOut
  | n + 1, c, s, counter, supply, count, body, q => do
    match supply.next? with
    | none => pure .unit
    | some (v, supply) =>
      match counter with
      | some k => assign k (.int count) none
      | none => pure ()
      assign s v none
      if body.isEmpty then tick c.limits q
      match ← attempt (evalBlock n c body) with
      | .ok _ | .error .skipped => evalEach n c s counter supply (count + 1) body q
      | .error (.left v) => pure v
      | .error e => throw e

end

end ScriptHost.Script
