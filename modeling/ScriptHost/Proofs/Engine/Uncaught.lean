import ScriptHost.Proofs.Engine.Freshness
import ScriptHost.Proofs.Script.Tracing
/-!
What is told about a throw that a script does not catch.

A throw is told by its value, or by the message of a thrown map, as long as it left no call of a function of
the script. Blocks, loops and handlers leave no mark on it. Once it left a call, it is told by its `trace`
instead: the value as a whole, the place where it was thrown, and the calls that it left.
-/

namespace ScriptHost

namespace Script

/-! ## What a throw is told by -/

/-- The message of a map that has one. -/
def Value.message? : Value → Option Value
  | .map ms => ms.lookup "message"
  | _ => none

/-- What a thrown value is told by: the message of a map that has one, or else the value itself. -/
def Value.told (v : Value) : Value := v.message?.getD v

/-- The account of a throw that left some calls: the value and where it was thrown, and on a line each the
calls and where they are made, the innermost one first. -/
def Throw.trace (t : HostType) (x : Throw) : String :=
  x.calls.foldr (fun call s => s!"{s}\nin call to function '{call.function}' ({call.place.text})")
    s!"{Raised.thrownMessage t x.value} ({x.place.text})"

theorem Raised.message_call (t : HostType) (f : String) {cause : Raised} (p : Place) {q : Place}
    (h : cause.place? = some q) :
    (Raised.call f cause p).message t = s!"{cause.message t}\nin call to function '{f}' ({p.text})" := by
  have inner : cause.message t = located (cause.bare t) q := by rw [message, h]
  rw [inner, message, place?, bare, h]
  simp [located, toString, String.append_assoc]

namespace Throw

variable (t : HostType) (x : Throw)

theorem exists_place_raised : ∃ q, x.raised.place? = some q := by
  obtain ⟨v, p, _ | ⟨call, calls⟩⟩ := x <;> exact ⟨_, rfl⟩

theorem message_raised : x.raised.message t = x.trace t := by
  obtain ⟨v, p, calls⟩ := x
  induction calls with
  | nil => rfl
  | cons call calls ih =>
    obtain ⟨q, placed⟩ := exists_place_raised ⟨v, p, calls⟩
    exact (Raised.message_call t call.function call.place placed).trans (by rw [ih]; rfl)

/-- A throw that left no call is told by its value. -/
theorem report_raised_of_nil (h : x.calls = []) : x.raised.report t = x.value.told.text (.reported t) := by
  obtain ⟨v, p, calls⟩ := x
  obtain rfl : calls = [] := h
  cases v with
  | map ms =>
    change Raised.report t (.thrown (.map ms) p) = ((ms.lookup "message").getD (.map ms)).text (.reported t)
    rw [Raised.report]
    cases ms.lookup "message" <;> rfl
  | _ => rfl

/-- A throw that left a call is told by its trace. -/
theorem report_raised_of_ne_nil (h : x.calls ≠ []) : x.raised.report t = x.trace t := by
  rw [← x.message_raised t]
  obtain ⟨v, p, _ | ⟨call, calls⟩⟩ := x
  · exact absurd rfl h
  · rfl

/-- Whatever calls it left, a handler gets what was thrown. -/
theorem caught_raised : x.raised.caught t = x.value := by
  rw [Raised.caught, root_raised]

theorem outcome_raised (limits : Limits) :
    (Verdict.ofRaised limits t x.raised).outcome = .error (.engine (x.raised.report t)) := by
  obtain ⟨v, p, _ | ⟨call, calls⟩⟩ := x <;> rfl

end Throw

end Script

namespace ScriptEngine

open Script

variable {limits : Limits} {api : Api} {c : Command} {r : Raised} {x y : Throw}

/-! ## How a command ends -/

/-- The program that is evaluated for a command, if its source is one. -/
def compiled (limits : Limits) (c : Command) : Option Program :=
  match program limits c.source with
  | .ok source => (Program.ofSource limits source).toOption.map (·.reduced limits idName (.str c.id.text))
  | .error _ => none

/-- What is raised and ends the evaluation of a command. -/
def raised? (limits : Limits) (api : Api) (c : Command) : Option Raised :=
  match compiled limits c with
  | some p =>
    match (p.evaluation limits api {} c.id.text).1 with
    | .error (.raised r) => some r
    | _ => none
  | none => none

/-- A throw that stands in the script of a command and is not caught there. -/
def Throws (limits : Limits) (api : Api) (c : Command) (x : Throw) : Prop :=
  ∃ p ∈ compiled limits c, Script.Throws (p.context limits api) callBound (.body p.body .unit) (.opening {} c.id.text) x

theorem raised?_eq_some_iff :
    raised? limits api c = some r ↔
      ∃ p ∈ compiled limits c, (p.evaluation limits api {} c.id.text).1 = .error (.raised r) := by
  unfold raised?
  cases compiled limits c with
  | none => simp
  | some p =>
    simp only [Option.mem_some_iff, exists_eq_left']
    rcases (p.evaluation limits api {} c.id.text).1 with (_ | _ | _ | _) | _ <;> simp

/-- What is raised is a throw that stands in the script if it is a throw at all. -/
theorem throws_iff : Throws limits api c x ↔ raised? limits api c = some x.raised := by
  rw [raised?_eq_some_iff]
  constructor
  · rintro ⟨p, compiles, throws⟩
    exact ⟨p, compiles, throws.raises⟩
  · rintro ⟨p, compiles, raised⟩
    exact ⟨p, compiles, throws_of_raises (t := .body p.body .unit) trivial raised⟩

/-- What is raised decides what the command comes to. -/
theorem outcome_of_raised (h : raised? limits api c = some r) :
    outcome limits api c = (Verdict.ofRaised limits api.hostType r).outcome := by
  obtain ⟨p, compiles, ended⟩ := raised?_eq_some_iff.1 h
  unfold compiled at compiles
  unfold outcome
  cases read : program limits c.source with
  | error a => simp [read] at compiles
  | ok source =>
    dsimp only
    cases parsed : Program.ofSource limits source with
    | error e => simp [read, parsed, Except.toOption] at compiles
    | ok q =>
      obtain rfl : q.reduced limits idName (.str c.id.text) = p := by
        simpa [read, parsed, Except.toOption] using compiles
      rw [Script.run, parsed]
      dsimp only
      rw [Program.run_eq]
      exact congrArg (fun e => (Verdict.ofEnd limits api.hostType e).outcome) ended

theorem Throws.outcome (h : Throws limits api c x) :
    outcome limits api c = .error (.engine (x.raised.report api.hostType)) :=
  (outcome_of_raised (throws_iff.1 h)).trans (x.outcome_raised api.hostType limits)

theorem Throws.unique (h : Throws limits api c x) (h' : Throws limits api c y) : x = y :=
  Throw.raised_injective (Option.some.inj ((throws_iff.1 h).symm.trans (throws_iff.1 h')))

/-- What a throw left are calls of functions that the program defines. -/
theorem Throws.exists_function {p : Program} (h : Throws limits api c x) (compiles : compiled limits c = some p) :
    ∀ call ∈ x.calls, ∃ g ∈ p.functions, g.name = call.function := by
  obtain ⟨q, found, throws⟩ := h
  obtain rfl : p = q := Option.some.inj (compiles.symm.trans found)
  exact throws.exists_function fun _ _ _ same => by cases same

end ScriptEngine

open ScriptEngine Script in
/-- A script that throws and does not catch it fails with what was thrown, by its text or by the text of a
thrown map's message, as long as the throw left no call of a function of the script, in whatever blocks, loops
and handlers it stands. A throw that left a call is told by its trace, though a handler would get its value all the
same; the calls are of functions of the program. An evaluation ends with a thrown value if and only if a throw of it
stands in the script that nothing there catches, and there is no other one then. This is what the caller is told, and
in every run the only thing, unless another thread signals the id.

Scripts are those of the language that `Program.ofSource` reads. -/
theorem uncaught_throws_are_told (limits : Limits) (api : Api) :
    let e := engine limits api
    let t := api.hostType
    let told (x : Throw) := if x.calls = [] then x.value.told.text (.reported t) else x.trace t
    (∀ c r v p, raised? limits api c = some r ∧ r.root = .thrown v p ↔
      ∃ x, ScriptEngine.Throws limits api c x ∧ x.raised = r ∧ x.value = v ∧ x.place = p) ∧
    (∀ c x y, ScriptEngine.Throws limits api c x → ScriptEngine.Throws limits api c y → x = y) ∧
    (∀ c p x, compiled limits c = some p → ScriptEngine.Throws limits api c x →
      ∀ call ∈ x.calls, ∃ g ∈ p.functions, g.name = call.function) ∧
    (∀ c x, ScriptEngine.Throws limits api c x → x.calls = [] →
      outcome limits api c = .error (.engine (x.value.told.text (.reported t)))) ∧
    (∀ c x, ScriptEngine.Throws limits api c x → x.calls ≠ [] →
      outcome limits api c = .error (.engine (x.trace t))) ∧
    (∀ x : Throw, x.raised.caught t = x.value) ∧
    (∀ c x s (b : Bridge State), ScriptEngine.Throws limits api c x →
      (b.handOff e c (e.wrap s c.id c.source)).table = b.table.resolve c.id (.error (.engine (told x)))) ∧
    ∀ config number vs,
      let b := ((Moment.start config number).after e vs).bridge
      ∀ c ∈ b.handed, c.id ∉ Move.signalled vs → ∀ x, ScriptEngine.Throws limits api c x →
        ∀ o, (c.id, o) ∈ b.resolutions → o = .error (.engine (told x)) := by
  intro e t told
  have bare (c : Command) (x : Throw) (throws : ScriptEngine.Throws limits api c x) (h : x.calls = []) :
      outcome limits api c = .error (.engine (x.value.told.text (.reported t))) := by
    rw [throws.outcome, x.report_raised_of_nil t h]
  have traced (c : Command) (x : Throw) (throws : ScriptEngine.Throws limits api c x) (h : x.calls ≠ []) :
      outcome limits api c = .error (.engine (x.trace t)) := by
    rw [throws.outcome, x.report_raised_of_ne_nil t h]
  have tells (c : Command) (x : Throw) (throws : ScriptEngine.Throws limits api c x) :
      outcome limits api c = .error (.engine (told x)) := by
    by_cases h : x.calls = []
    · exact (bare c x throws h).trans (by rw [show told x = _ from if_pos h])
    · exact (traced c x throws h).trans (by rw [show told x = _ from if_neg h])
  refine ⟨fun c r v p => ⟨?_, ?_⟩, fun c x y h h' => h.unique h', fun c p x compiles h => h.exists_function compiles,
    bare, traced, fun x => x.caught_raised t, fun c x s b throws => ?_, ?_⟩
  · rintro ⟨raised, root⟩
    obtain ⟨calls, rfl⟩ := Throw.exists_of_root root
    exact ⟨_, throws_iff.2 raised, rfl, rfl, rfl⟩
  · rintro ⟨x, throws, rfl, rfl, rfl⟩
    exact ⟨throws_iff.1 throws, x.root_raised⟩
  · rw [← tells c x throws]
    exact (answers limits api).table_handOff s trivial b
  · intro config number vs b c handed unsignalled x throws o resolved
    rw [eq_outcome_of_handed limits api config number vs handed unsignalled resolved]
    exact tells c x throws

/-- A script in which a handler throws again what came out of a function. -/
def rethrowing : Command :=
  ⟨.issue "inv" 1, "fn check(n) \x7b if n > 1 \x7b throw #\x7bmessage: \"too many\", n: n\x7d \x7d n \x7d " ++
    "for i in 0..9 \x7b try \x7b check(i) \x7d catch (e) \x7b throw e \x7d \x7d"⟩

/-- The script is invoked behind an open gate, and evaluated. -/
def rethrowingRun : List (Move ScriptEngine.State) :=
  Moment.alone 4 ++ [.act (.invoke rethrowing.source)] ++ Moment.alone 4

open ScriptEngine Script in
theorem rethrown_message_is_told :
    let b := ((Moment.start {} 1).after (engine {} {}) rethrowingRun).bridge
    ∃ x, ScriptEngine.Throws {} {} rethrowing x ∧ x.calls = [] ∧
      x.value.message?.map (·.text (.reported {})) = some "too many" ∧
      outcome {} {} rethrowing = .error (.engine "too many") ∧ b.handed = [rethrowing] ∧
      (rethrowing.id, .error (.engine "too many")) ∈ b.resolutions := by
  intro b
  have thrown : ((raised? {} {} rethrowing).bind Throw.ofRaised?).map (fun x => (x.calls,
      x.value.message?.map (·.text (.reported {})), x.value.told.text (.reported {}))) =
        some ([], some "too many", "too many") := by decide +kernel
  obtain ⟨x, found, parts⟩ := Option.map_eq_some_iff.1 thrown
  obtain ⟨none_left, parts⟩ := Prod.mk.inj parts
  obtain ⟨message, text⟩ := Prod.mk.inj parts
  obtain ⟨r, raised, is_throw⟩ := Option.bind_eq_some_iff.1 found
  have throws : ScriptEngine.Throws {} {} rethrowing x :=
    throws_iff.2 (Throw.ofRaised?_eq_some_iff.1 is_throw ▸ raised)
  obtain ⟨-, -, -, bare, -, -, -, runs⟩ := uncaught_throws_are_told {} {}
  have handed : b.handed = [rethrowing] := by decide +kernel
  have unsignalled : rethrowing.id ∉ Move.signalled rethrowingRun := by decide +kernel
  have ids : b.resolutions.map (·.1) = [rethrowing.id] := by decide +kernel
  obtain ⟨⟨id, o⟩, resolved, rfl⟩ : ∃ r ∈ b.resolutions, r.1 = rethrowing.id :=
    List.mem_map.1 (ids ▸ List.mem_singleton_self _)
  have engine_told {s : String} (h : s = "too many") : (.error (.engine s) : Outcome) = .error (.engine "too many") :=
    h ▸ rfl
  have told := (bare _ x throws none_left).trans (engine_told text)
  have own := (runs {} 1 rethrowingRun _ (handed ▸ List.mem_singleton_self _) unsignalled x throws o resolved).trans
    (engine_told ((if_pos none_left).trans text))
  exact ⟨x, throws, none_left, message, told, handed, own ▸ resolved⟩

open ScriptEngine Script in
/-- Out of a function a map with a message is told as a whole, and with its places: not by its message. -/
theorem message_out_of_a_function_is_not_told :
    let c : Command := ⟨.issue "inv" 1, "fn f() \x7b throw #\x7bmessage: \"boom\"\x7d \x7d f()"⟩
    let words := "Runtime error: #\x7b\"message\": \"boom\"\x7d (line 1, position 10)\n" ++
      "in call to function 'f' (line 1, position 37)"
    ∃ x, ScriptEngine.Throws {} {} c x ∧ x.calls = [⟨"f", ⟨1, 37⟩⟩] ∧
      x.value.message?.map (·.text (.reported {})) = some "boom" ∧
      outcome {} {} c = .error (.engine words) ∧ outcome {} {} c ≠ .error (.engine "boom") := by
  intro c words
  have thrown : ((raised? {} {} c).bind Throw.ofRaised?).map (fun x => (x.calls,
      x.value.message?.map (·.text (.reported {})), x.raised.report {})) =
        some ([⟨"f", ⟨1, 37⟩⟩], some "boom", words) := by decide +kernel
  obtain ⟨x, found, parts⟩ := Option.map_eq_some_iff.1 thrown
  obtain ⟨left, parts⟩ := Prod.mk.inj parts
  obtain ⟨message, report⟩ := Prod.mk.inj parts
  obtain ⟨r, raised, is_throw⟩ := Option.bind_eq_some_iff.1 found
  have throws : ScriptEngine.Throws {} {} c x := throws_iff.2 (Throw.ofRaised?_eq_some_iff.1 is_throw ▸ raised)
  have told : outcome {} {} c = .error (.engine words) := report ▸ throws.outcome
  refine ⟨x, throws, left, message, told, fun same => ?_⟩
  have equal : words = "boom" := Failure.engine.inj (Except.error.inj (told.symm.trans same))
  exact absurd equal (by decide)

end ScriptHost
