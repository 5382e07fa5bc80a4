import ScriptHost.Script.Fault
import ScriptHost.Script.Limits
/-!
What an evaluation works on: its variables, how far it has come, and what it has printed.

Time is counted in steps. The clock runs on from one evaluation to the next, and a limit of time is about what
has gone by since the clock was last started.
-/

namespace ScriptHost.Script

/-- A variable. -/
structure Variable where
  name : String
  value : Value
  /-- what of the value may not change: of a constant that which it was at first -/
  fixed : Option Value

/-- Whether a variable may not be assigned to. -/
def Variable.isConstant (x : Variable) : Bool := x.fixed.isSome

/-- What a script prints. -/
inductive Output where
  | printed (s : String)
  /-- printed for debugging, and where the script did so -/
  | debugged (s : String) (p : Place)

/-- A clock that counts steps, and what it showed when it was last started. -/
structure Stopwatch where
  now : Nat := 0
  started : Nat := 0

namespace Stopwatch

/-- The steps that have gone by since the start. -/
def elapsed (w : Stopwatch) : Nat := w.now - w.started

/-- So many steps go by. -/
def forward (w : Stopwatch) (n : Nat) : Stopwatch := { w with now := w.now + n }

/-- Started anew. -/
def restart (w : Stopwatch) : Stopwatch := { w with started := w.now }

end Stopwatch

/-- The state of an evaluation. -/
structure Machine where
  /-- steps taken so far -/
  steps : Nat
  watch : Stopwatch
  /-- the variables in scope, innermost first -/
  scope : List Variable
  /-- what was printed, latest first -/
  output : List Output

/-- How statements end other than by going on. -/
inductive Exit where
  | raised (r : Raised)
  /-- the innermost loop is left with a value -/
  | left (v : Value)
  /-- the innermost loop goes on -/
  | skipped
  /-- the function is left with a value -/
  | returned (v : Value)

/-- A part of an evaluation: the machine stays as it is left, also when the part ends early. -/
abbrev Run (α : Type) := ExceptT Exit (StateM Machine) α

/-- How many steps go into a millisecond. -/
def stepsPerMs : Nat := 10000

namespace Run

/-- Raises. -/
def raise {α : Type} (r : Raised) : Run α := throw (.raised r)

/-- Raises a fault about a place. -/
def fail {α : Type} (f : Fault) (p : Place) : Run α := raise (.fault f p)

/-- What an operation came to, as a fault about a place if it failed. -/
def ofExcept {α : Type} (p : Place) : Except Fault α → Run α
  | .ok a => pure a
  | .error f => fail f p

/-- How a part ends. -/
def attempt {α : Type} (r : Run α) : Run (Except Exit α) := fun m =>
  let (a, m) := r.run m
  (.ok a, m)

/-- The steps for which there is time. -/
def timeLimit (limits : Limits) : Nat := limits.timeoutMs * stepsPerMs

/-- Whether so many steps more would be too many, or take too long. -/
def checkSteps (limits : Limits) (more : Nat) (p : Option Place) : Run Unit := do
  let m ← get
  if exceeds limits.operations (m.steps + more) then raise (.exceeded .operations p)
  else if timeLimit limits < m.watch.elapsed + more then raise .timedOut

/-- So many steps are taken, and their time goes by. -/
def proceed (n : Nat) : Run Unit := modify fun m => { m with steps := m.steps + n, watch := m.watch.forward n }

/-- Takes a step: there may be too many of them. Not every step has a place. -/
def tick (limits : Limits) (p : Option Place) : Run Unit := do
  proceed 1
  checkSteps limits 0 p

/-- Takes steps without end: what comes of it is known beforehand. -/
def spin {α : Type} (limits : Limits) (p : Place) : Run α := do
  let m ← get
  let many := limits.operations - m.steps
  let late := timeLimit limits - m.watch.elapsed
  let isBounded := limits.operations != 0 && many ≤ late
  proceed ((if isBounded then many else late) + 1)
  if isBounded then raise (.exceeded .operations p) else raise .timedOut

/-- Checks what a value holds against the limits. -/
def checkExtent (limits : Limits) (e : Value.Extent) (p : Place) : Run Unit := do
  if exceeds limits.stringSize e.bytes then raise (.exceeded .stringSize p)
  else if exceeds limits.arraySize e.items then raise (.exceeded .arraySize p)
  else if exceeds limits.mapSize e.members then raise (.exceeded .mapSize p)

/-- The value, if it is not too large. -/
def sized (limits : Limits) (v : Value) (p : Place) : Run Value := do
  match v with
  | .str _ | .array _ | .map _ => checkExtent limits v.extent p
  | _ => pure ()
  pure v

/-! ## Variables -/

/-- The innermost variable of a name. -/
def lookup? (s : String) : Run (Option Variable) := do
  pure ((← get).scope.find? (·.name = s))

/-- Puts a value into the innermost variable of a name; from then on so much of it is fixed. -/
def assign (s : String) (v : Value) (fixed : Option Value) : Run Unit :=
  modify fun m => { m with scope := go m.scope }
where
  /-- The variables with the first one of the name changed. -/
  go : List Variable → List Variable
    | [] => []
    | x :: xs => if x.name = s then ⟨s, v, fixed⟩ :: xs else x :: go xs

/-- Brings a variable into scope. -/
def bring (s : String) (v : Value) (fixed : Option Value) : Run Unit :=
  modify fun m => { m with scope := ⟨s, v, fixed⟩ :: m.scope }

/-- Complains if so many more variables would be too many. -/
def checkRoom (limits : Limits) (more : Nat) (p : Place) : Run Unit := do
  if limits.variableCount < (← get).scope.length + more then raise (.exceeded .variableCount p)

/-- A part whose variables are gone afterwards, however it ends. -/
def enclosed {α : Type} (r : Run α) : Run α := fun m =>
  let (a, n) := r.run m
  (a, { n with scope := n.scope.drop (n.scope.length - m.scope.length) })

/-- A part that sees no variables but its own, which are gone afterwards. -/
def apart {α : Type} (scope : List Variable) (r : Run α) : Run α := fun m =>
  let (a, n) := r.run { m with scope }
  (a, { n with scope := m.scope })

/-- Prints. -/
def print (o : Output) : Run Unit := modify fun m => { m with output := o :: m.output }

end Run

end ScriptHost.Script
