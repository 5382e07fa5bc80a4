import ScriptHost.Proofs.Engine.Script
import ScriptHost.Proofs.Script.Raising
/-!
Scripts carry nothing over.

An engine is `Served` one command after another, whatever comes of each and whatever time goes by, and
is in some state then: it has its log, and a clock that shows more and was started at some time. Every
script starts the clock anew, and sees no more of it than what has gone by since (`run_timeless`). So
what the engine does about a command is the same in all states (`serves_iff`), and so is what it gains
from it (`gains_next`). What a run of a bridge comes to is read off this, and off `logged_after` for the
log.
-/

namespace ScriptHost

open Bridge

variable {σ α β : Type}

namespace Bridge

/-- What an engine does to its bridge leaves the engine as it is. -/
theorem engine_acted {b b' : Bridge σ} (h : b.Acted b') : b'.engine = b.engine := by
  cases h with
  | dispatch source =>
    rcases dispatch_cases b source false with ⟨o, e⟩ | ⟨-, -, e⟩ <;> rw [e] <;> rfl
  | drop id =>
    unfold drop
    split <;> rfl
  | same | resolve | openGate | cancel => rfl

/-- Nobody but the engine thread and the host changes the engine's state. -/
theorem engine_move (b : Bridge σ) {v : Move σ} (h : ∀ f, v ≠ .share f) : (b.move v).engine = b.engine := by
  cases v with
  | act a => exact engine_acted (acted_perform b a)
  | block source =>
    change (b.dispatch source true).2.engine = b.engine
    rcases dispatch_cases b source true with ⟨o, e⟩ | ⟨-, -, e⟩ <;> rw [e] <;> rfl
  | poll id =>
    change (b.poll id).2.engine = b.engine
    unfold poll
    split <;> rfl
  | deadline =>
    change b.deadline.engine = b.engine
    unfold deadline
    split <;> rfl
  | share f => exact absurd rfl (h f)
  | advance | hold | expire | pass | elsewhere => rfl

end Bridge

namespace Conduct

theorem performs_done_iff {a a' : α} {as : List Act} : (Conduct.done a).Performs as a' ↔ as = [] ∧ a' = a := by
  constructor
  · rintro ⟨⟩
    exact ⟨rfl, rfl⟩
  · rintro ⟨rfl, rfl⟩
    exact .done _

theorem performs_map_iff {f : α → β} {c : Conduct α} {as : List Act} {b : β} :
    (c.map f).Performs as b ↔ ∃ a, c.Performs as a ∧ b = f a := by
  constructor
  · intro h
    induction c generalizing as with
    | done a =>
      obtain ⟨rfl, rfl⟩ := performs_done_iff.1 h
      exact ⟨a, .done a, rfl⟩
    | act x next ih =>
      cases h with
      | act r h =>
        obtain ⟨a, performs, rfl⟩ := ih r h
        exact ⟨a, .act r performs, rfl⟩
  · rintro ⟨a, performs, rfl⟩
    induction performs with
    | done a => exact .done (f a)
    | act r _ ih => exact .act r ih

/-- Some replies bring every conduct to its end. -/
theorem exists_performs (c : Conduct α) : ∃ as a, c.Performs as a := by
  induction c with
  | done a => exact ⟨[], a, .done a⟩
  | act x next ih =>
    obtain ⟨r⟩ : Nonempty x.Reply := by
      cases x with
      | signal | post | ready | initFailed => exact ⟨Disposition.unmatched⟩
      | invoke => exact ⟨InvocationId.issue "" 0⟩
      | invokeBlocking => exact ⟨(.ok .null : Outcome)⟩
      | release | shutdown => exact ⟨()⟩
      | gate => exact ⟨Gate.initializing⟩
      | onEngineThread => exact ⟨true⟩
    obtain ⟨as, a, performs⟩ := ih r
    exact ⟨x :: as, a, .act r performs⟩

end Conduct

namespace Engine

/-- How an engine in some state serves a command: it wraps the source and, if that goes well, evaluates the
program. It is left in a state and with a result. -/
inductive Serves (e : Engine σ) (c : Command) (s : σ) : List Act → σ × Except Abort Unit → Prop
  | refuses {as : List Act} {t : σ} {a : Abort} (h : (e.wrap s c.id c.source).Performs as (t, .error a)) :
      Serves e c s as (t, .error a)
  | evaluates {as as' : List Act} {t : σ} {program : String} {r : σ × Except Abort Unit}
      (hw : (e.wrap s c.id c.source).Performs as (t, .ok program))
      (he : (e.evaluate t c.id program).Performs as' r) : Serves e c s (as ++ as') r

variable {e : Engine σ} {c : Command} {s t : σ} {as : List Act} {r : σ × Except Abort Unit}

theorem serves_of_refused {a : Abort} (h : e.wrap s c.id c.source = .done (t, .error a)) :
    e.Serves c s as r ↔ as = [] ∧ r = (t, .error a) := by
  constructor
  · intro serves
    cases serves with
    | refuses hw => exact Conduct.performs_done_iff.1 (h ▸ hw) |>.imp_right fun same => by simpa using same
    | evaluates hw =>
      have same := (Conduct.performs_done_iff.1 (h ▸ hw)).2
      simp at same
  · rintro ⟨rfl, rfl⟩
    exact .refuses (h ▸ .done _)

theorem serves_of_wrapped {program : String} (h : e.wrap s c.id c.source = .done (t, .ok program)) :
    e.Serves c s as r ↔ (e.evaluate t c.id program).Performs as r := by
  constructor
  · intro serves
    cases serves with
    | refuses hw =>
      have same := (Conduct.performs_done_iff.1 (h ▸ hw)).2
      simp at same
    | evaluates hw he =>
      obtain ⟨rfl, same⟩ := Conduct.performs_done_iff.1 (h ▸ hw)
      obtain ⟨rfl, rfl⟩ : _ = t ∧ _ = program := by simpa using same
      exact he
  · intro performs
    have wraps : (e.wrap s c.id c.source).Performs [] (t, .ok program) := h ▸ .done _
    exact .evaluates wraps performs

end Engine

namespace Script

/-! ## The start of a program -/

theorem lookup_opening (w : Stopwatch) (id s : String) : (Run.lookup? s).run (.opening w id) =
    (.ok (if s = idName then some ⟨idName, .str id, some (.str id)⟩ else none), .opening w id) := by
  have found : [(⟨idName, .str id, some (.str id)⟩ : Variable)].find? (·.name = s) =
      if s = idName then some ⟨idName, .str id, some (.str id)⟩ else none := by
    by_cases hs : s = idName
    · simp [hs]
    · simp [hs, Ne.symm hs]
  exact congrArg (fun v => (Except.ok v, Machine.opening w id)) found

/-- At the start the name of the id stands for the id, the name of a function of the program for the function,
and no other name for anything. -/
theorem read_opening (c : Context) (w : Stopwatch) (id s : String) (p : Place) : (c.read s p).run (.opening w id) =
    (if s = idName then .ok ⟨idName, .str id, some (.str id)⟩
      else if c.functions.any (·.name = s) then .ok ⟨s, .function s, none⟩
      else .error (.raised (.fault (.variableNotFound s) p)), .opening w id) := by
  unfold Context.read
  rw [Run.run_bind_of_ok (lookup_opening w id s)]
  by_cases hs : s = idName
  · rw [if_pos hs, if_pos hs]
    rfl
  · rw [if_neg hs, if_neg hs]
    by_cases hf : c.functions.any (·.name = s)
    · simp only [hf, if_true]
      rfl
    · simp only [hf]
      rfl

/-- A call of what the program does not define is one of the host's functions, or of the language's. -/
theorem callFunction_of_undefined {c : Context} {f : String} {vs : List Value}
    (h : ∀ g ∈ c.functions, g.name = f → g.params.length ≠ vs.length) (n : Nat) (hold : Hold) (p : Place) :
    callFunction (n + 1) c f vs hold p = c.callOuter f vs hold p := by
  have undefined : c.function? f vs.length = none := by
    refine List.find?_eq_none.2 fun g hg => ?_
    simpa using h g hg
  rw [callFunction, undefined]

/-- A program that begins with nothing but its id and its own functions: no step is taken, no time has gone by and
nothing is printed. -/
structure Begun (c : Context) (m : Machine) (functions : List Function) (id : String) : Prop where
  steps : m.steps = 0
  elapsed : m.watch.elapsed = 0
  output : m.output = []
  level : c.level = 0
  /-- a name stands for the id or for a function of the program -/
  read (x : String) (p : Place) : (c.read x p).run m =
    (if x = idName then .ok ⟨idName, .str id, some (.str id)⟩
      else if functions.any (·.name = x) then .ok ⟨x, .function x, none⟩
      else .error (.raised (.fault (.variableNotFound x) p)), m)
  /-- calls of other functions are the host's or the language's -/
  call (f : String) (vs : List Value) (h : ∀ g ∈ functions, g.name = f → g.params.length ≠ vs.length) (n : Nat)
    (hold : Hold) (p : Place) : callFunction (n + 1) c f vs hold p = c.callOuter f vs hold p

theorem Program.begun (limits : Limits) (api : Api) (w : Stopwatch) (id : String) (p : Program) :
    Begun ((p.reduced limits idName (.str id)).context limits api) (.opening w.restart id) p.functions id where
  steps := rfl
  elapsed := w.elapsed_restart
  output := rfl
  level := rfl
  read x place := by
    have own : ((p.reduced limits idName (.str id)).context limits api).functions.any (·.name = x) =
        p.functions.any (·.name = x) := List.any_map
    rw [read_opening, own]
  call f vs undefined n hold place := by
    refine callFunction_of_undefined (fun g hg => ?_) n hold place
    obtain ⟨g', hg', rfl⟩ := List.mem_map.1 hg
    exact undefined g' hg'

end Script

namespace ScriptEngine

open Script

/-! ## What the engine does about a command -/

/-- What the script of a command prints. -/
def printed (limits : Limits) (api : Api) (c : Command) : List LogEntry :=
  match program limits c.source with
  | .ok p => (run limits api {} c.id.text p).output.map entry
  | .error _ => []

/-- How many steps go by on the clock while a command is served. -/
def spent (limits : Limits) (api : Api) (c : Command) : Nat :=
  match program limits c.source with
  | .ok p => (run limits api {} c.id.text p).watch.now
  | .error _ => 0

/-- What the engine does about a command. -/
def response (limits : Limits) (api : Api) (c : Command) : Conduct (Except Abort Unit) :=
  match program limits c.source with
  | .ok p => report c.id (run limits api {} c.id.text p).verdict
  | .error a => .done (.error a)

/-- What the engine has gained from one state to another: lines of its log, and steps of its clock. -/
structure Gains (s t : State) (lines : List LogEntry) (steps : Nat) : Prop where
  entries : t.entries = lines.reverse ++ s.entries
  now : t.watch.now = s.watch.now + steps

variable {limits : Limits} {api : Api} {c : Command} {s s₀ t : State} {as : List Act} {r : Except Abort Unit}

/-- The state that the engine is in once a script is done. -/
def State.done (s : State) (f : Finish) : State := ⟨(f.output.map entry).reverse ++ s.entries, f.watch⟩

theorem evaluate_performs {id : InvocationId} {p : String} {r : State × Except Abort Unit} :
    (evaluate limits api s id p).Performs as r ↔
      (report id (run limits api s.watch id.text p).verdict).Performs as r.2 ∧
        r.1 = s.done (run limits api s.watch id.text p) := by
  have evaluated : evaluate limits api s id p = (report id (run limits api s.watch id.text p).verdict).map fun r =>
      (s.done (run limits api s.watch id.text p), r) := rfl
  rw [evaluated, Conduct.performs_map_iff]
  obtain ⟨t, r⟩ := r
  constructor
  · rintro ⟨r', performs, e⟩
    obtain ⟨rfl, rfl⟩ := Prod.mk.inj e
    exact ⟨performs, rfl⟩
  · rintro ⟨performs, rfl⟩
    exact ⟨r, performs, rfl⟩

/-- The state that the engine is in once it served a command. -/
def next (limits : Limits) (api : Api) (s : State) (c : Command) : State :=
  match program limits c.source with
  | .ok p => s.done (run limits api s.watch c.id.text p)
  | .error _ => s

/-- In every state of the engine the same is done about a command. -/
theorem serves_iff : (engine limits api).Serves c s as (t, r) ↔
    (response limits api c).Performs as r ∧ t = next limits api s c := by
  have wrapped : (engine limits api).wrap s c.id c.source = .done (s, program limits c.source) := rfl
  unfold response next
  cases hp : program limits c.source with
  | ok p =>
    rw [hp] at wrapped
    rw [Engine.serves_of_wrapped wrapped]
    refine evaluate_performs.trans ?_
    rw [(run_timeless limits api s.watch c.id.text p).1]
  | error a =>
    rw [hp] at wrapped
    rw [Engine.serves_of_refused wrapped, Conduct.performs_done_iff, Prod.mk.injEq, and_assoc, and_comm (a := t = s)]

/-- In every state of the engine the same is gained from a command. -/
theorem gains_next (limits : Limits) (api : Api) (s : State) (c : Command) :
    Gains s (next limits api s c) (printed limits api c) (spent limits api c) := by
  unfold next printed spent
  cases program limits c.source with
  | ok p =>
    obtain ⟨-, output, now⟩ := run_timeless limits api s.watch c.id.text p
    refine ⟨?_, now⟩
    change ((run limits api s.watch c.id.text p).output.map entry).reverse ++ s.entries = _
    rw [output]
  | error a => exact ⟨rfl, rfl⟩

/-! ## Histories -/

/-- The states that an engine is in once it was built and served some commands, however they ended and whatever time
went by between them. -/
inductive Served (limits : Limits) (api : Api) : List Command → State → Prop
  | built {as : List Act} {s : State} (h : (engine limits api).build.Performs as (.ok s)) : Served limits api [] s
  | serves {history : List Command} {s : State} {c : Command} {as : List Act} {r : State × Except Abort Unit}
      (h : Served limits api history s) (hc : (engine limits api).Serves c s as r) :
      Served limits api (history ++ [c]) r.1
  | idles {history : List Command} {s : State} (h : Served limits api history s) (n : Nat) :
      Served limits api history (s.idle n)

/-- What is done about a command in one state is done in another one, and as much is gained from it. -/
def Repeats (e : Engine State) (c : Command) (s s₀ : State) : Prop :=
  ∀ as t r, e.Serves c s as (t, r) →
    ∃ lines steps t₀, Gains s t lines steps ∧ e.Serves c s₀ as (t₀, r) ∧ Gains s₀ t₀ lines steps

theorem repeats (limits : Limits) (api : Api) (c : Command) (s s₀ : State) :
    Repeats (engine limits api) c s s₀ := by
  intro as t r serves
  obtain ⟨performs, rfl⟩ := serves_iff.1 serves
  exact ⟨_, _, _, gains_next limits api s c, serves_iff.2 ⟨performs, rfl⟩, gains_next limits api s₀ c⟩

theorem performs_build {r : Except Abort State} (h : (engine limits api).build.Performs as r) : r = .ok {} := by
  have built : (engine limits api).build = .act .ready fun _ => .done (.ok {}) := rfl
  rw [built] at h
  cases h with
  | act _ h => exact (Conduct.performs_done_iff.1 h).2

/-- An engine that has served nothing has an empty log. -/
theorem log_of_built (h : Served limits api [] s) : s.entries = [] := by
  generalize none_before : ([] : List Command) = history at h
  induction h with
  | built h => rw [Except.ok.inj (performs_build h)]
  | serves => simp at none_before
  | idles _ _ ih => exact ih none_before

/-- Any commands can be served one after another. -/
theorem served (limits : Limits) (api : Api) (history : List Command) :
    Served limits api history (history.foldl (next limits api) {}) := by
  induction history using List.reverseRecOn with
  | nil =>
    have built : (engine limits api).build = .act .ready fun _ => .done (.ok {}) := rfl
    have makes : (engine limits api).build.Performs [.ready] (.ok {}) := by
      rw [built]
      exact .act (x := .ready) Disposition.unmatched (.done _)
    exact .built makes
  | append_singleton history c ih =>
    obtain ⟨as, r, performs⟩ := (response limits api c).exists_performs
    have serves := ih.serves (serves_iff.2 ⟨performs, rfl⟩)
    simpa using serves

/-- What an invocation comes to: the signal that the engine makes for it, or else its failure. -/
inductive Tells (id : InvocationId) : List Act → Except Abort Unit → Outcome → Prop
  | signals {s : Signal} (hs : s.id = id) : Tells id [.signal s] (.ok ()) s.outcome
  | fails (a : Abort) : Tells id [] (.error a) (.error a.failure)

theorem tells_of_report {id : InvocationId} {v : Verdict} (h : (report id v).Performs as r) :
    Tells id as r v.outcome := by
  cases v with
  | value v =>
    obtain - | ⟨-, ⟨⟩⟩ := h
    exact .signals (s := .ofValue id v) rfl
  | error message =>
    obtain - | ⟨-, ⟨⟩⟩ := h
    exact .signals (s := .ofError id message) rfl
  | refused f =>
    obtain ⟨⟩ := h
    exact .fails (.failed f)
  | panicked text =>
    obtain ⟨⟩ := h
    exact .fails (.panicked text)

theorem tells_of_response (h : (response limits api c).Performs as r) : Tells c.id as r (outcome limits api c) := by
  unfold response at h
  unfold outcome
  cases hp : program limits c.source with
  | ok p =>
    rw [hp] at h
    exact tells_of_report h
  | error a =>
    rw [hp] at h
    obtain ⟨rfl, rfl⟩ := Conduct.performs_done_iff.1 h
    exact .fails a

/-! ## Runs -/

/-- The log, once the engine is there. -/
def log? (b : Bridge State) : Option (List LogEntry) := b.engine.map (·.entries)

/-- What the engine thread has before it, given the log at its last rest. -/
def AtWork (limits : Limits) (api : Api) (log : Option (List LogEntry)) : Work State → Prop
  | .idle => True
  | .building rest => log = none ∧ ∀ as r, rest.Performs as r → r = .ok {}
  | .wrapping c rest => ∃ s, log = some s.entries ∧ rest = (engine limits api).wrap s c.id c.source
  | .evaluating c rest =>
    ∃ lines, log = some lines ∧ ∀ as r, rest.Performs as r → r.1.entries = (printed limits api c).reverse ++ lines

/-- The log lists what the commands printed that the engine is done with, in their order, and nothing else. -/
structure Logged (limits : Limits) (api : Api) (m : Moment State) : Prop where
  unbuilt : log? m.bridge = none → m.bridge.finished = []
  entries : ∀ lines, log? m.bridge = some lines → lines = (m.bridge.finished.flatMap (printed limits api)).reverse
  work : AtWork limits api (log? m.bridge) m.work

variable {m m' : Moment State} {b b' : Bridge State} {w : Work State}

theorem log?_of_engine (h : b'.engine = b.engine) : log? b' = log? b := congrArg (Option.map State.entries) h

/-- A host that leaves the log alone leaves it as it is. -/
theorem log?_move (b : Bridge State) {v : Move State} (h : ∀ f, v = .share f → ∀ s, (f s).entries = s.entries) :
    log? (b.move v) = log? b := by
  by_cases shares : ∃ f, v = .share f
  · obtain ⟨f, rfl⟩ := shares
    have kept : State.entries ∘ f = State.entries := funext (h f rfl)
    change (b.engine.map f).map State.entries = b.engine.map State.entries
    rw [Option.map_map, kept]
  · exact log?_of_engine (engine_move b fun f hf => shares ⟨f, hf⟩)

namespace Logged

theorem frame (h : Logged limits api m) (he : log? b = log? m.bridge) (hf : b.finished = m.bridge.finished)
    (hw : AtWork limits api (log? m.bridge) w) : Logged limits api ⟨b, w⟩ where
  unbuilt hn := hf.trans (h.unbuilt (he ▸ hn))
  entries lines hs := by
    change lines = (b.finished.flatMap _).reverse
    rw [hf]
    exact h.entries lines (he ▸ hs)
  work := by
    change AtWork limits api (log? b) w
    rwa [he]

/-- A command that is done adds what it printed. -/
theorem returned (h : Logged limits api m) {lines : List LogEntry} (hs : log? m.bridge = some lines)
    (ht : t.entries = (printed limits api c).reverse ++ lines) (r : Except Abort Unit) :
    Logged limits api ⟨m.bridge.returned c (t, r), .idle⟩ := by
  have finished : (m.bridge.returned c (t, r)).finished = m.bridge.finished ++ [c] := by
    simp [record_returned Event.finished_ofWork]
  have log : log? (m.bridge.returned c (t, r)) = some t.entries := congrArg (Option.map _) (engine_returned _ _ _)
  refine ⟨fun hn => ?_, fun lines' ht' => ?_, trivial⟩
  · simp [log] at hn
  · obtain rfl : t.entries = lines' := Option.some.inj (log.symm.trans ht')
    change t.entries = ((m.bridge.returned c (t, r)).finished.flatMap _).reverse
    rw [finished, ht, h.entries lines hs]
    simp

theorem idle (h : Logged limits api ⟨b, .idle⟩) (ready : Readied ⟨b, .idle⟩)
    (hs : Stride (engine limits api) ⟨b, .idle⟩ m') : Logged limits api m' := by
  cases hs with
  | rest => exact h
  | beginBuild hp =>
    have unbuilt : b.engine = none := by
      have none_built := ready.engine_iff
      simpa [ready.unbuilt hp] using none_built
    exact h.frame rfl rfl ⟨congrArg (Option.map State.entries) unbuilt, fun _ _ => performs_build⟩
  | drain | park | defer | serve => exact h.frame rfl rfl trivial
  | close =>
    have engine : b.close.engine = b.engine := close_keeps (I := fun b' => b'.engine = b.engine) (fun _ _ h => h) b rfl
    exact h.frame (log?_of_engine engine) (record_close Event.finished_ofWork) trivial
  | skip hn | refuse hn =>
    have log := log?_of_engine (next?_engine hn)
    exact h.frame log (by simp [record_next _ hn]) trivial
  | handOver hn hi hg hs =>
    have log := log?_of_engine (next?_engine hn)
    exact h.frame log (by simp [record_next _ hn]) ⟨_, congrArg (Option.map State.entries) hs, rfl⟩

theorem busy (h : Logged limits api m) (hw : m.work ≠ .idle) :
    Logged limits api (m.advance (engine limits api)) := by
  obtain ⟨b, work⟩ := m
  have acted : ∀ a, log? (b.perform a).2 = log? b ∧ (b.perform a).2.finished = b.finished := fun a =>
    ⟨log?_of_engine (engine_acted (acted_perform b a)), record_outer Event.finished_ofWork (acted_perform b a).outer⟩
  cases work with
  | idle => exact absurd rfl hw
  | building rest =>
    obtain ⟨unbuilt, makes⟩ := h.work
    cases rest with
    | done r =>
      obtain rfl : r = .ok {} := makes [] r (.done r)
      have finished : (b.built (.ok {})).finished = b.finished := by simp [record_built Event.finished_ofWork]
      refine ⟨nofun, fun lines hs => ?_, trivial⟩
      obtain rfl : [] = lines := Option.some.inj hs
      change [] = ((b.built (.ok {})).finished.flatMap _).reverse
      rw [finished, h.unbuilt unbuilt]
      rfl
    | act a next =>
      exact h.frame (acted a).1 (acted a).2 ⟨unbuilt, fun as r performs => makes (a :: as) r (.act _ performs)⟩
  | wrapping c rest =>
    obtain ⟨s, hs, rfl⟩ := h.work
    have wrapped : (engine limits api).wrap s c.id c.source = .done (s, program limits c.source) := rfl
    rw [wrapped]
    cases hp : program limits c.source with
    | error a => exact h.returned hs (by simp [printed, hp]) (.error a)
    | ok p =>
      refine h.frame rfl (record_note_aside rfl b) ⟨s.entries, hs, fun as r performs => ?_⟩
      have serves : (engine limits api).Serves c s as r := (Engine.serves_of_wrapped (hp ▸ wrapped)).2 performs
      rw [(serves_iff.1 serves).2]
      exact (gains_next limits api s c).entries
  | evaluating c rest =>
    obtain ⟨lines, hs, adds⟩ := h.work
    cases rest with
    | done r => exact h.returned hs (adds [] r (.done r)) r.2
    | act a next =>
      exact h.frame (acted a).1 (acted a).2 ⟨lines, hs, fun as r performs => adds (a :: as) r (.act _ performs)⟩

end Logged

/-- In every run in which the host leaves the log alone, the log lists what each command printed. -/
theorem logged_after (limits : Limits) (api : Api) (config : Config) (number : Nat) (vs : List (Move State))
    (hv : ∀ f, .share f ∈ vs → ∀ s, (f s).entries = s.entries) :
    Logged limits api ((Moment.start config number).after (engine limits api) vs) := by
  refine Moment.after_induction ⟨fun _ => rfl, nofun, trivial⟩ ?_ (fun m _ hw logged => logged.busy hw) ?_
  · rintro b m' ⟨us, hu⟩ logged hs
    exact logged.idle (hu ▸ (queues_after (engine limits api) config number us).2) hs
  · intro m v hm _ logged
    have untouched : ∀ f, v = .share f → ∀ s, (f s).entries = s.entries := fun f hf => hv f (hf ▸ hm)
    exact logged.frame (log?_move m.bridge untouched) (record_outer Event.finished_ofWork (outer_move m.bridge v))
      logged.work

end ScriptEngine

end ScriptHost
