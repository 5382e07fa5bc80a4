import ScriptHost.Engine.Script
import ScriptHost.Proofs.Bridge.Answers
import ScriptHost.Proofs.Script.Timing
/-!
The script engine answers.

An evaluation signals once, for its own invocation, or fails and signals nothing (`evaluate_acts`). So what
the script engine was given has the outcome that its own source comes to, and nothing stays pending.
-/

namespace ScriptHost

variable {α : Type}

/-- What a conduct may do, whatever the replies are, and what it returns then. -/
inductive Conduct.Performs : Conduct α → List Act → α → Prop
  | done (a : α) : Performs (.done a) [] a
  | act {x : Act} {next : x.Reply → Conduct α} (r : x.Reply) {as : List Act} {a : α} (h : Performs (next r) as a) :
      Performs (.act x next) (x :: as) a

namespace Script

/-- What ends an evaluation: a value, or what was raised. -/
def Program.ending (limits : Limits) (api : Api) (id : String) (program : Program) : Except Raised Value :=
  match (program.evaluation limits api {} id).1 with
  | .ok v | .error (.returned v) | .error (.left v) => .ok v
  | .error .skipped => .ok .unit
  | .error (.raised r) => .error r

theorem Program.verdict_run (limits : Limits) (api : Api) (id : String) (program : Program) :
    (program.run limits api {} id).verdict =
      match program.ending limits api id with
      | .ok v => .ofValue api.hostType v
      | .error r => .ofRaised limits api.hostType r := by
  rw [program.run_eq, ending]
  rcases (program.evaluation limits api {} id).1 with (_ | _ | _ | _) | _ <;> rfl

/-- Why a source has nothing to report. -/
inductive Unreported (limits : Limits) (api : Api) (id source : String) : Prop
  | unread {e : ParseError} (h : Program.ofSource limits source = .error e)
  | uncaught {p : Program} (hp : Program.ofSource limits source = .ok p) {r : Raised}
      (h : (p.reduced limits idName (.str id)).ending limits api id = .error r) (hr : r.isCatchable = false)
  | foreign {p : Program} (hp : Program.ofSource limits source = .ok p) {v : Value}
      (h : (p.reduced limits idName (.str id)).ending limits api id = .ok v) {type : String}
      (ht : v.toJson api.hostType = .error type)

/-- Whether a verdict is reported for its invocation. -/
def Verdict.isReport : Verdict → Bool
  | value _ | error _ => true
  | refused _ | panicked _ => false

theorem Verdict.isReport_ofRaised (limits : Limits) (t : HostType) (r : Raised) :
    (Verdict.ofRaised limits t r).isReport = r.isCatchable := by
  cases r <;> rfl

theorem Verdict.isReport_ofValue (t : HostType) (v : Value) :
    (Verdict.ofValue t v).isReport = false ↔ ∃ type, v.toJson t = .error type := by
  unfold Verdict.ofValue
  cases hj : v.toJson t <;> simp [Verdict.isReport]

theorem verdict_run_of_ok (limits : Limits) (api : Api) (w : Stopwatch) (id : String) {source : String} {p : Program}
    (hp : Program.ofSource limits source = .ok p) :
    (run limits api w id source).verdict =
      match (p.reduced limits idName (.str id)).ending limits api id with
      | .ok v => .ofValue api.hostType v
      | .error r => .ofRaised limits api.hostType r := by
  rw [(run_timeless limits api w id source).1, run, hp]
  exact Program.verdict_run limits api id _

/-- A source reports nothing for one of three reasons. -/
theorem unreported_iff (limits : Limits) (api : Api) (w : Stopwatch) (id source : String) :
    (run limits api w id source).verdict.isReport = false ↔ Unreported limits api id source := by
  constructor
  · intro silent
    cases hp : Program.ofSource limits source with
    | error e => exact .unread hp
    | ok p =>
      rw [verdict_run_of_ok limits api w id hp] at silent
      cases he : (p.reduced limits idName (.str id)).ending limits api id with
      | ok v =>
        rw [he] at silent
        obtain ⟨type, ht⟩ := (Verdict.isReport_ofValue api.hostType v).1 silent
        exact .foreign hp he ht
      | error r =>
        rw [he] at silent
        exact .uncaught hp he ((Verdict.isReport_ofRaised limits api.hostType r).symm.trans silent)
  · intro why
    cases why with
    | unread h =>
      rw [run, h]
      rfl
    | uncaught hp h hr =>
      rw [verdict_run_of_ok limits api w id hp, h]
      exact (Verdict.isReport_ofRaised limits api.hostType _).trans hr
    | foreign hp h ht =>
      rw [verdict_run_of_ok limits api w id hp, h]
      exact (Verdict.isReport_ofValue api.hostType _).2 ⟨_, ht⟩

/-- A value, an error of the engine, or a failure of encoding. -/
inductive Reports : Outcome → Prop
  | value (v : Json) : Reports (.ok v)
  | engine (message : String) : Reports (.error (.engine message))
  | encoding (message : String) : Reports (.error (.encoding message))

/-- What a verdict means for its invocation. -/
def Verdict.outcome : Verdict → Outcome
  | value v => .ok v
  | error message => .error (.engine message)
  | refused f => .error f
  | panicked text => .error (Abort.panicked text).failure

theorem reports_ofValue (t : HostType) (v : Value) : Reports (Verdict.ofValue t v).outcome := by
  unfold Verdict.ofValue
  cases v.toJson t with
  | ok j => exact .value j
  | error type => exact .encoding _

theorem reports_ofRaised (limits : Limits) (t : HostType) (r : Raised) :
    Reports (Verdict.ofRaised limits t r).outcome := by
  cases r <;> exact .engine _

theorem reports_run (limits : Limits) (api : Api) (w : Stopwatch) (id source : String) :
    Reports (run limits api w id source).verdict.outcome := by
  cases hp : Program.ofSource limits source with
  | error e =>
    rw [run, hp]
    exact .engine _
  | ok p =>
    rw [verdict_run_of_ok limits api w id hp]
    split
    · exact reports_ofValue _ _
    · exact reports_ofRaised _ _ _

end Script

namespace ScriptEngine

open Script

/-- What an invocation of a script comes to. -/
def outcome (limits : Limits) (api : Api) (c : Command) : Outcome :=
  match program limits c.source with
  | .ok p => (run limits api {} c.id.text p).verdict.outcome
  | .error a => .error a.failure

theorem reports_outcome (limits : Limits) (api : Api) (c : Command) : Reports (outcome limits api c) := by
  unfold outcome program
  split
  · exact reports_run _ _ _ _ _
  · rename_i a ha
    split at ha
    · cases ha
      exact .encoding _
    · cases ha

theorem evaluates (limits : Limits) (api : Api) (s : State) (c : Command) (p : String) :
    Evaluates c (some (run limits api {} c.id.text p).verdict.outcome) (evaluate limits api s c.id p) := by
  rw [← (run_timeless limits api s.watch c.id.text p).1]
  unfold evaluate
  generalize run limits api s.watch c.id.text p = finish
  obtain ⟨verdict, output, w⟩ := finish
  cases verdict with
  | value v => exact .signals (s := .ofValue c.id v) rfl _
  | error message => exact .signals (s := .ofError c.id message) rfl _
  | refused f => exact .fails _ (.failed f)
  | panicked text => exact .fails _ (.panicked text)

/-- The script engine gives every command the outcome that its own source comes to. -/
theorem answers (limits : Limits) (api : Api) :
    (engine limits api).Answers (fun _ => True) fun c => some (outcome limits api c) where
  build := .report fun _ => .made ({} : State)
  call s c _ := by
    have wrapped : (engine limits api).wrap s c.id c.source = .done (s, program limits c.source) := rfl
    rw [wrapped, outcome]
    cases program limits c.source with
    | error a => exact .fails s a
    | ok p => exact .yields (evaluates limits api s c p)

/-- In every run what was handed over has the outcome of its own source, unless another thread signals its id. -/
theorem eq_outcome_of_handed (limits : Limits) (api : Api) (config : Config) (number : Nat)
    (vs : List (Move State)) {c : Command} {o : Outcome} :
    let b := ((Moment.start config number).after (engine limits api) vs).bridge
    c ∈ b.handed → c.id ∉ Move.signalled vs → (c.id, o) ∈ b.resolutions → o = outcome limits api c := by
  intro b handed unsignalled resolved
  have course := course_after (answers limits api) config number vs fun _ _ => trivial
  rcases course.own c handed o resolved with mine | signalled | ⟨never, -⟩
  · exact (Option.some.inj mine).symm
  · exact absurd signalled unsignalled
  · cases never

/-- An evaluation returns well if it signalled once, for its own invocation, and fails if it signalled
nothing. -/
theorem evaluate_acts (limits : Limits) (api : Api) (s : State) (id : InvocationId) (p : String) :
    (∃ as r, (evaluate limits api s id p).Performs as r) ∧
    ∀ as r, (evaluate limits api s id p).Performs as r →
      (r.2 = .ok () ↔ ∃ signal, as = [.signal signal] ∧ signal.id = id) ∧
      ((∃ a, r.2 = .error a) ↔ as = []) ∧
      (as = [] ↔ Unreported limits api id.text p) := by
  rw [← unreported_iff limits api s.watch]
  unfold evaluate
  generalize run limits api s.watch id.text p = finish
  obtain ⟨verdict, output, w⟩ := finish
  constructor
  · cases verdict with
    | value v => exact ⟨_, _, .act (x := .signal (.ofValue id v)) Disposition.resolved (.done _)⟩
    | error message => exact ⟨_, _, .act (x := .signal (.ofError id message)) Disposition.resolved (.done _)⟩
    | refused f => exact ⟨_, _, .done _⟩
    | panicked text => exact ⟨_, _, .done _⟩
  · intro as r performs
    cases verdict with
    | value v =>
      obtain - | ⟨-, ⟨⟩⟩ := performs
      simp [Verdict.isReport, Signal.ofValue]
    | error message =>
      obtain - | ⟨-, ⟨⟩⟩ := performs
      simp [Verdict.isReport, Signal.ofError]
    | refused f =>
      obtain ⟨⟩ := performs
      simp [Verdict.isReport]
    | panicked text =>
      obtain ⟨⟩ := performs
      simp [Verdict.isReport]

end ScriptEngine

/-- A script that would signal for another id has no function to do so with. -/
example : ((ScriptEngine.outcome {} {} ⟨.issue "forge" 1,
      "bridge_return(\x60$\x7bbridge_invocation_id\x7d0\x60, \"forged\")"⟩).map fun _ => ()) =
    .error (.engine ("Function not found: bridge_return (&str | ImmutableString | String, " ++
      "&str | ImmutableString | String) (line 1, position 1)")) := by
  decide +kernel

end ScriptHost
