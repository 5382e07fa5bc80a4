import ScriptHost.Bridge.Failure
import ScriptHost.Script.Eval
import ScriptHost.Script.Parser
import ScriptHost.Script.Reduction
/-!
Running a script and reporting what came of it.

A script ends with a value or with an error, which is reported for its invocation; or it comes to
nothing, because it is no script, exceeds a limit, or ends with a value that JSON does not have.
-/

namespace ScriptHost.Script

/-- The name of a type that JSON does not have. -/
def Value.foreignName (t : HostType) : Value → String
  | .range _ _ inclusive => if inclusive then "RangeInclusive<i64>" else "Range<i64>"
  | v => v.typePath t

mutual

/-- The JSON value of a script's value, or the name of the type that JSON does not have. -/
def Value.toJson (t : HostType) : Value → Except String Json
  | .unit => .ok .null
  | .bool b => .ok (.bool b)
  | .int n => .ok (.int n)
  | .float x => .ok (if x.isFinite then .real x else .null)
  | .char c => .ok (.str (String.singleton c))
  | .str s => .ok (.str s)
  | .array xs => (Value.toJsonItems t xs).map .arr
  | .map ms => (Value.toJsonMembers t ms).map .obj
  | v => .error (v.foreignName t)

/-- `toJson` on each item. -/
def Value.toJsonItems (t : HostType) : List Value → Except String (List Json)
  | [] => .ok []
  | x :: xs => do
    let j ← x.toJson t
    let js ← Value.toJsonItems t xs
    pure (j :: js)

/-- `toJson` on the value of each member. -/
def Value.toJsonMembers (t : HostType) : List (String × Value) → Except String (List (String × Json))
  | [] => .ok []
  | (k, v) :: ms => do
    let j ← v.toJson t
    let js ← Value.toJsonMembers t ms
    pure ((k, j) :: js)

end

/-- What a script that was not caught throwing is reported with: the text of what it threw, for a map
with a message the text of that; of other faults the wording with all places. -/
def Raised.report (t : HostType) : Raised → String
  | .thrown (.map ms) _ =>
    match ms.lookup "message" with
    | some v => v.text (.reported t)
    | none => (Value.map ms).text (.reported t)
  | .thrown v _ => v.text (.reported t)
  | r => r.message t

/-- What comes of a script. -/
inductive Verdict where
  /-- it ended with a value -/
  | value (v : Json)
  /-- it ended with an error -/
  | error (message : String)
  /-- it came to nothing -/
  | refused (f : Failure)
  /-- the host panicked -/
  | panicked (text : String)

/-- What comes of a script that ends with a value. -/
def Verdict.ofValue (t : HostType) (v : Value) : Verdict :=
  match v.toJson t with
  | .ok j => .value j
  | .error type =>
    .refused (.encoding (s!"result of type {v.typePath t} is not JSON: "
      ++ s!"Output type incorrect: {type} (expecting serde_json::value::Value)"))

/-- What comes of a script that something raised ends. -/
def Verdict.ofRaised (limits : Limits) (t : HostType) (r : Raised) : Verdict :=
  match r with
  | .exceeded .. => .refused (.engine s!"Runtime error: {r.message t}")
  | .timedOut => .refused (.scriptTimeout limits.timeoutMs)
  | .panicked text => .panicked text
  | r => .error (r.report t)

/-- How deep the calls of an evaluation may nest. -/
def callBound : Nat := 1000000000000

/-- What comes of a script whose statements end in some way. -/
def Verdict.ofEnd (limits : Limits) (t : HostType) : Except Exit Value → Verdict
  | .ok v | .error (.returned v) | .error (.left v) => .ofValue t v
  | .error .skipped => .ofValue t .unit
  | .error (.raised r) => .ofRaised limits t r

/-- What an evaluation starts from: no step is taken, nothing is printed, and the id of the invocation is a
constant and the only variable. The clock runs on. -/
def Machine.opening (w : Stopwatch) (id : String) : Machine := ⟨0, w, [⟨idName, .str id, some (.str id)⟩], []⟩

/-- What a program is evaluated with: its own functions, outside all calls. -/
def Program.context (limits : Limits) (api : Api) (program : Program) : Context :=
  ⟨limits, api, program.functions, 0⟩

/-- How the evaluation of a program ends, and the machine that it leaves. -/
def Program.evaluation (limits : Limits) (api : Api) (w : Stopwatch) (id : String) (program : Program) :
    Except Exit Value × Machine :=
  (evalBody callBound (program.context limits api) program.body .unit).run (.opening w id)

/-- What a script leaves behind. -/
structure Finish where
  verdict : Verdict
  /-- what it printed, oldest first -/
  output : List Output
  watch : Stopwatch

/-- Runs a program for an invocation. -/
def Program.run (limits : Limits) (api : Api) (w : Stopwatch) (id : String) (program : Program) : Finish :=
  let (r, m) := program.evaluation limits api w id
  ⟨.ofEnd limits api.hostType r, m.output.reverse, m.watch⟩

/-- Runs a source for an invocation. The clock is started once the source has been read. -/
def run (limits : Limits) (api : Api) (w : Stopwatch) (id source : String) : Finish :=
  match Program.ofSource limits source with
  | .ok program => (program.reduced limits idName (.str id)).run limits api w.restart id
  | .error e => ⟨.refused (.engine s!"Parse error: {e.message}"), [], w⟩

end ScriptHost.Script
