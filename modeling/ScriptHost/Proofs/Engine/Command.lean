import ScriptHost.Engine.Command
import ScriptHost.Engine.Factory
import ScriptHost.Proofs.Bridge.Calling
import ScriptHost.Proofs.Bridge.Isolation
import ScriptHost.Proofs.Bridge.Settings
/-!
The command engine answers.

Each source has a meaning of its own (`meaning`). What a source is invoked with, before or after the gate
opens and among whatever else, comes to what the source means, and the engine sees what it can be told in
the order of the calls.
-/

namespace ScriptHost

open Bridge

/-! ## Programs -/

namespace Text

theorem cutList_append {sep : Char} {before : List Char} (h : sep ∉ before) (after : List Char) :
    cutList sep (before ++ sep :: after) = (before, after) := by
  induction before with
  | nil => simp [cutList]
  | cons c cs ih =>
    have ne : c ≠ sep := fun same => h (same ▸ List.mem_cons_self)
    have rest := ih fun hs => h (List.mem_cons_of_mem c hs)
    simp [cutList, ne, rest]

theorem utf8ByteSize_cons (c : Char) (cs : List Char) :
    (String.ofList (c :: cs)).utf8ByteSize = c.utf8Size + (String.ofList cs).utf8ByteSize := by
  have split : String.ofList (c :: cs) = String.singleton c ++ String.ofList cs := by
    rw [String.singleton_eq_ofList, ← String.ofList_append]
    rfl
  rw [split, String.utf8ByteSize_append, String.utf8ByteSize_singleton]

/-- The first occurrence of a character stands behind what is before it. -/
theorem offsetFrom?_of_mem {c : Char} {cs : List Char} (h : c ∈ cs) (start : Nat) :
    offsetFrom? c start cs = some (start + (String.ofList (cs.takeWhile (· ≠ c))).utf8ByteSize) := by
  induction cs generalizing start with
  | nil => cases h
  | cons d ds ih =>
    by_cases hd : d = c
    · simp [offsetFrom?, hd]
    · have later : c ∈ ds := (List.mem_cons.1 h).resolve_left (Ne.symm hd)
      have kept : (d :: ds).takeWhile (· ≠ c) = d :: ds.takeWhile (· ≠ c) := by simp [hd]
      rw [kept, utf8ByteSize_cons, ← Nat.add_assoc, ← ih later]
      simp [offsetFrom?, hd]

end Text

/-- The failure of a source with a NUL tells how many bytes are before the first one. -/
theorem Bridge.encodingFault?_of_mem {source : String} (h : Char.ofNat 0 ∈ source.toList) :
    encodingFault? source = some (.encoding s!"source contains a NUL byte at offset {
      (String.ofList (source.toList.takeWhile (· ≠ Char.ofNat 0))).utf8ByteSize}") := by
  rw [encodingFault?, Text.offset?, Text.offsetFrom?_of_mem h, Nat.zero_add]
  rfl

/-- No id that is issued in a run has a line break in it. -/
theorem newline_not_mem_issued {σ : Type} (e : Engine σ) {config : Config} (sound : config.Sound) (number : Nat)
    (vs : List (Move σ)) : ∀ id ∈ ((Moment.start config number).after e vs).bridge.issued, '\n' ∉ id.text.toList := by
  intro id hid
  obtain ⟨n, -, rfl⟩ := (ledger_after e config number vs).numbered id hid
  rw [config_after]
  exact sound.newline_not_mem_issue n

namespace Command

/-- The first line of a program is its id, and the rest is the source. -/
theorem cut_program {id : InvocationId} (h : '\n' ∉ id.text.toList) (source : String) :
    Text.cut '\n' (program id source) = (id.text, source) := by
  have lists : (program id source).toList = id.text.toList ++ '\n' :: source.toList := by
    have text : program id source = id.text ++ "\n" ++ source := rfl
    simp [text]
  simp [Text.cut, lists, Text.cutList_append h]

/-! ## What sources mean -/

/-- The first word of a source, and what is behind the space after it. -/
def words (source : String) : String × String := Text.cut ' ' (Text.trim source)

/-- What an invocation of a source comes to; nothing if it is left open. -/
def meaning (source : String) : Option Outcome :=
  if Char.ofNat 0 ∈ source.toList then
    let before := String.ofList (source.toList.takeWhile (· ≠ Char.ofNat 0))
    some (.error (.encoding s!"source contains a NUL byte at offset {before.utf8ByteSize}"))
  else
    match words source with
    | ("", _) => some (.ok .null)
    | ("value", literal) =>
      match Json.read literal with
      | .ok v => some (.ok v)
      | .error e => some (.error (.encoding s!"bad value literal: {e.message}"))
    | ("throw", message) => some (.error (.engine message))
    | ("hold", _) => none
    | ("reject", message) => some (.error (.transport message))
    | ("panic", _) => some (.error (.engine "engine panicked during evaluation"))
    | (word, _) => some (.error (.engine s!"unknown command: {word}"))

/-- Nothing is left open but what is told to be held. -/
theorem meaning_eq_none_iff (source : String) :
    meaning source = none ↔ Char.ofNat 0 ∉ source.toList ∧ (words source).1 = "hold" := by
  unfold meaning
  split
  · rename_i nul
    simp [nul]
  · rename_i clean
    simp only [clean, not_false_eq_true, true_and]
    generalize words source = w
    split
    case h_2 => split <;> simp
    case h_4 => simp
    case h_1 | h_3 | h_5 | h_6 => simp
    case h_7 word argument _ _ _ not_hold _ _ =>
      simp only [reduceCtorEq, false_iff]
      rintro rfl
      exact not_hold rfl

theorem meaning_of_fault {source : String} {f : Failure} (h : encodingFault? source = some f) :
    meaning source = some (.error f) := by
  have nul : Char.ofNat 0 ∈ source.toList := by
    by_contra clean
    rw [(encodingFault?_eq_none source).2 clean] at h
    cases h
  rw [encodingFault?_of_mem nul] at h
  rw [meaning, if_pos nul, ← Option.some.inj h]

/-- What the engine does about a source that it can be told, and that is no posted text. -/
theorem evaluates_conduct {c : Command} (clean : encodingFault? c.source = none)
    (not_raw : (words c.source).1 ≠ "raw") {σ : Type} (t : σ) :
    Evaluates c (meaning c.source) (((Instruction.ofSource c.source).conduct c.id).map fun r => (t, r)) := by
  have no_nul := (encodingFault?_eq_none c.source).1 clean
  rw [meaning, if_neg no_nul]
  unfold Instruction.ofSource
  change (words c.source).1 ≠ "raw" at not_raw
  rw [show Text.cut ' ' (Text.trim c.source) = words c.source from rfl]
  generalize words c.source = w at not_raw
  obtain ⟨word, argument⟩ := w
  dsimp only at not_raw ⊢
  split
  case h_1 heq =>
    cases heq
    exact .signals (s := .ofValue c.id .null) rfl t
  case h_2 literal heq =>
    cases heq
    simp only [Instruction.conduct]
    cases Json.read argument with
    | ok v => exact .signals (s := .ofValue c.id v) rfl t
    | error e => exact .fails t (.failed (.encoding s!"bad value literal: {e.message}"))
  case h_3 message heq =>
    cases heq
    exact .signals (s := .ofError c.id argument) rfl t
  case h_4 heq =>
    cases heq
    exact .leaves t
  case h_5 message heq =>
    cases heq
    exact .fails t (.failed (.transport argument))
  case h_6 heq =>
    cases heq
    exact .fails t (.panicked "scripted engine panic")
  case h_7 e1 e2 e3 e4 e5 e6 heq =>
    cases heq
    split
    case h_1 => exact (e1 rfl).elim
    case h_2 => exact (e2 rfl).elim
    case h_3 => exact (e3 rfl).elim
    case h_4 => exact (e4 rfl).elim
    case h_5 => exact (e5 rfl).elim
    case h_6 => exact absurd rfl not_raw
    case h_7 => exact (e6 rfl).elim
    case h_8 => exact .fails t (.failed (.engine s!"unknown command: {word}"))

/-! ## The engine -/

/-- The engine whose factory reports readiness so many times. -/
def reporting (reports : Nat) : Engine (List InvocationId) :=
  engine (FactoryStep.conduct (List.replicate reports .ready))

theorem readies_reporting (reports : Nat) : Readies (reporting reports).build := by
  induction reports with
  | zero => exact .made []
  | succ n ih => exact .report fun _ => ih

/-- What the engine may get: a source that it can be told, that is no posted text, under an id of one line. -/
structure Admitted (c : Command) : Prop where
  id : '\n' ∉ c.id.text.toList
  clean : encodingFault? c.source = none
  not_raw : (words c.source).1 ≠ "raw"

theorem evaluate_program {c : Command} (h : '\n' ∉ c.id.text.toList) (seen : List InvocationId) :
    evaluate seen c.id (program c.id c.source) =
      ((Instruction.ofSource c.source).conduct c.id).map fun r => (c.id :: seen, r) := by
  rw [evaluate, cut_program h]
  exact if_neg (fun hne => hne rfl)

/-- The command engine gives every command the outcome that its source means. -/
theorem answers (reports : Nat) : (reporting reports).Answers Admitted fun c => meaning c.source where
  build := readies_reporting reports
  call seen c h := by
    have evaluates : Evaluates c (meaning c.source) (evaluate seen c.id (program c.id c.source)) := by
      rw [evaluate_program h.id]
      exact evaluates_conduct h.clean h.not_raw (c.id :: seen)
    exact .yields evaluates

theorem quiet_conduct (id : InvocationId) (i : Instruction) : (i.conduct id).Quiet := by
  cases i with
  | value literal =>
    rw [Instruction.conduct]
    split
    · exact .act nofun fun _ => .done _
    · exact .done _
  | empty | throw | raw => exact .act nofun fun _ => .done _
  | hold | reject | panic | unknown => exact .done _

theorem quiet (reports : Nat) : (reporting reports).Quiet where
  build := (readies_reporting reports).quiet
  wrap _ _ _ := .done _
  evaluate seen id program := by
    change (evaluate seen id program).Quiet
    rw [evaluate]
    split
    split
    · exact .done _
    · exact (quiet_conduct id _).map _

/-! ## What the engine sees -/

/-- A conduct whose result has a property, whatever the replies are. -/
inductive Ends {α : Type} (Q : α → Prop) : Conduct α → Prop
  | done {a : α} (h : Q a) : Ends Q (.done a)
  | act {x : Act} {next : x.Reply → Conduct α} (h : ∀ r, Ends Q (next r)) : Ends Q (.act x next)

theorem ends_map {α β : Type} {Q : β → Prop} {f : α → β} (h : ∀ a, Q (f a)) (rest : Conduct α) :
    Ends Q (rest.map f) := by
  induction rest with
  | done a => exact .done (h a)
  | act x next ih => exact .act ih

/-- The engine has seen what it was given, the command included that it is at. -/
def Sees (m : Moment (List InvocationId)) : Prop :=
  match m.work with
  | .idle => ∀ seen, m.bridge.engine = some seen → seen.reverse = m.bridge.handed.map (·.id)
  | .building rest => Ends (fun r => ∀ seen, r = .ok seen → seen = []) rest
  | .wrapping c rest => ∃ seen, rest = .done (seen, .ok (program c.id c.source)) ∧
      (c.id :: seen).reverse = m.bridge.handed.map (·.id)
  | .evaluating _ rest => Ends (fun r => r.1.reverse = m.bridge.handed.map (·.id)) rest

variable {reports : Nat} {b b' : Bridge (List InvocationId)} {m m' : Moment (List InvocationId)}

theorem Sees.frame (h : Sees m) {b : Bridge (List InvocationId)} (engine : b.engine = m.bridge.engine)
    (handed : b.handed = m.bridge.handed) : Sees ⟨b, m.work⟩ := by
  obtain ⟨b', work⟩ := m
  have engine : b.engine = b'.engine := engine
  have handed : b.handed = b'.handed := handed
  cases work with
  | idle => exact fun seen hs => handed ▸ h seen (engine ▸ hs)
  | building rest => exact h
  | wrapping c rest =>
    obtain ⟨seen, hr, hs⟩ := h
    exact ⟨seen, hr, handed ▸ hs⟩
  | evaluating c rest =>
    change Ends _ rest
    rw [handed]
    exact h

theorem Sees.called {source? : Option String} (h : Sees m) (hc : Called m.bridge source? b)
    (ho : m.bridge.Outer b) : Sees ⟨b, m.work⟩ := by
  refine h.frame ?_ (record_outer Event.handed_ofWork ho)
  cases hc with
  | dispatch source held =>
    rcases dispatch_cases m.bridge source held with ⟨o, e⟩ | ⟨-, -, e⟩ <;> rw [e] <;> rfl
  | poll id =>
    unfold Bridge.poll
    split <;> rfl
  | same | hold | openGate | pass | elsewhere => rfl

theorem none_handed_of_building (r : m.Regular) {rest : Conduct (Except Abort (List InvocationId))}
    (hw : m.work = .building rest) : m.bridge.engine = none ∧ m.bridge.handed = [] := by
  have unbuilt := r.ready.unbuilt (r.ready.starting rest hw)
  have none_built : ¬ m.bridge.engine.isSome := by simp [r.ready.engine_iff, unbuilt]
  refine ⟨by simpa using none_built, List.eq_nil_iff_forall_not_mem.2 fun c hc => ?_⟩
  exact none_built (r.ready.handed c hc).2

theorem sees_idle (h : Sees ⟨b, .idle⟩) (hs : Stride (reporting reports) ⟨b, .idle⟩ m') : Sees m' := by
  have taken : ∀ {b' : Bridge (List InvocationId)} {c : Command}, b.next? = some (c, b') →
      b'.engine = b.engine ∧ (b'.note (.taken c)).handed = b.handed := by
    intro b' c hn
    refine ⟨next?_engine hn, ?_⟩
    simp [record_next _ hn]
  cases hs with
  | rest => exact h
  | beginBuild hp => exact ends_map (fun r seen hr => by cases r <;> cases hr; rfl) _
  | drain | park | defer | serve => exact h.frame (m := ⟨b, .idle⟩) rfl rfl
  | close =>
    have engine : b.close.engine = b.engine :=
      close_keeps (I := fun b' => b'.engine = b.engine) (fun _ _ h => h) b rfl
    exact h.frame (m := ⟨b, .idle⟩) engine (record_close Event.handed_ofWork)
  | skip hn => exact h.frame (m := ⟨b, .idle⟩) (taken hn).1 (taken hn).2
  | @refuse b b' c hn hi f =>
    have resolved := record_outer Event.handed_ofWork (.resolve (b'.note (.taken c)) c.id (.error f))
    have handed := resolved.trans (taken hn).2
    exact h.frame (m := ⟨b, .idle⟩) (taken hn).1 handed
  | @handOver b b' c hn hi hg s hs =>
    have handed : ((b'.note (.taken c)).note (.handedOver c)).handed = b.handed ++ [c] := by
      simp [record_next _ hn]
    refine ⟨s, rfl, ?_⟩
    change (c.id :: s).reverse = ((b'.note (.taken c)).note (.handedOver c)).handed.map (·.id)
    rw [handed, List.reverse_cons, List.map_append, ← h s hs]
    rfl

theorem sees_busy (h : Sees m) (r : m.Regular) (hid : ∀ c ∈ m.bridge.handed, '\n' ∉ c.id.text.toList)
    (hw : m.work ≠ .idle) : Sees (m.advance (reporting reports)) := by
  obtain ⟨b, work⟩ := m
  have performed : ∀ x : Act, (b.perform x).2.handed = b.handed :=
    fun x => record_outer Event.handed_ofWork (acted_perform b x).outer
  cases work with
  | idle => exact absurd rfl hw
  | building rest =>
    have nothing : b.engine = none ∧ b.handed = [] := none_handed_of_building r rfl
    obtain ⟨none_built, none_handed⟩ := nothing
    have ends : Ends (fun r => ∀ seen, r = .ok seen → seen = []) rest := h
    cases ends with
    | @act x next ends =>
      have moved : (⟨b, .building (.act x next)⟩ : Moment _).advance (reporting reports) =
        ⟨(b.perform x).2, .building (next (b.perform x).1)⟩ := rfl
      exact moved ▸ ends _
    | @done a ends =>
      intro seen hs
      have handed : (b.built a).handed = [] := by
        rw [Bridge.handed, record_built Event.handed_ofWork]
        exact (List.append_nil _).trans none_handed
      change seen.reverse = (b.built a).handed.map _
      rw [handed]
      rcases a with (f | text) | s
      · cases none_built.symm.trans hs
      · cases none_built.symm.trans hs
      · rw [ends seen (congrArg Except.ok (Option.some.inj hs))]
        rfl
  | wrapping c rest =>
    obtain ⟨seen, rfl, hs⟩ := h
    have current : c ∈ b.handed := r.current_handed rfl
    have handed : (b.note (.wrapped c)).handed = b.handed := record_note_aside rfl b
    have moved : (⟨b, .wrapping c (.done (seen, .ok (program c.id c.source)))⟩ : Moment _).advance
        (reporting reports) = ⟨b.note (.wrapped c), .evaluating c (evaluate seen c.id (program c.id c.source))⟩ := rfl
    have ends : Ends (fun r => r.1.reverse = (b.note (.wrapped c)).handed.map (·.id))
        (evaluate seen c.id (program c.id c.source)) := by
      rw [evaluate_program (hid c current), handed]
      refine ends_map (fun a => ?_) _
      exact hs
    exact moved ▸ ends
  | evaluating c rest =>
    have ends : Ends (fun r => r.1.reverse = b.handed.map (·.id)) rest := h
    cases ends with
    | @act x next ends =>
      have moved : (⟨b, .evaluating c (.act x next)⟩ : Moment _).advance (reporting reports) =
        ⟨(b.perform x).2, .evaluating c (next (b.perform x).1)⟩ := rfl
      have rest : Ends (fun r => r.1.reverse = (b.perform x).2.handed.map (·.id)) (next (b.perform x).1) := by
        rw [performed]
        exact ends _
      exact moved ▸ rest
    | @done a ends =>
      intro seen hs
      have handed : (b.returned c a).handed = b.handed := by simp [record_returned Event.handed_ofWork]
      have engine : (b.returned c a).engine = some a.1 := by
        obtain ⟨t, (f | u)⟩ := a <;> rfl
      change seen.reverse = (b.returned c a).handed.map _
      rw [handed, ← ends, Option.some.inj (hs.symm.trans engine)]

end Command

open Command

section Run

variable (reports : Nat) (config : Config) (valid : config.violation? = none) (number : Nat)
  {vs : List (Move (List InvocationId))} (calling : ∀ v ∈ vs, v.IsCalling)
  (not_raw : ∀ v ∈ vs, ∀ source, v.source? = some source → (words source).1 ≠ "raw")

include valid not_raw in
theorem admitted_of_asked : ∀ c ∈ (Moment.start config number).asked (reporting reports) vs,
    encodingFault? c.source = none → Admitted c := by
  intro c hc clean
  obtain ⟨n, hn⟩ := Moment.id_of_asked hc
  obtain ⟨v, hv, hs⟩ := Moment.source_of_asked hc
  exact ⟨hn ▸ (Config.violation?_eq_none_iff.1 valid).newline_not_mem_issue n, clean, not_raw v hv c.source hs⟩

include valid calling in
theorem sees_after : Sees ((Moment.start config number).after (reporting reports) vs) := by
  have sound : config.Sound := Config.violation?_eq_none_iff.1 valid
  refine Moment.after_induction nofun (fun b m' _ sees hs => sees_idle sees hs) ?_ ?_
  · rintro m ⟨us, rfl⟩ hw sees
    have regular := regular_after (reporting reports) config number us
    have lines := newline_not_mem_issued (reporting reports) sound number us
    exact sees_busy sees regular (fun c hc => lines c.id (regular.issued (regular.handed_sent hc))) hw
  · intro m v hv _ sees
    exact sees.called (called_move (calling v hv)) (outer_move m.bridge v)

end Run

/-- What callers may find at any time for what they asked for: each call issues an id of its own, and there is no
outcome for it but what its source means. -/
structure Meant (asked : List Command) (b : Bridge (List InvocationId)) : Prop where
  issued : b.issued = asked.map (·.id)
  resolved : ∀ c ∈ asked, ∀ o, (c.id, o) ∈ b.resolutions → meaning c.source = some o
  found : ∀ c ∈ asked, c.id ∉ b.released → ∀ o, b.look c.id = some o → meaning c.source = some o

/-- What callers find in the end: all that their sources mean. What is told to be held is pending, and the engine
has seen the sources without a NUL, in the order of the calls. -/
structure Told (asked : List Command) (b : Bridge (List InvocationId)) : Prop where
  resolved : ∀ c ∈ asked, ∀ o, (c.id, o) ∈ b.resolutions ↔ meaning c.source = some o
  found : ∀ c ∈ asked, c.id ∉ b.released → b.look c.id = meaning c.source
  pending : b.pending = asked.countP (fun c => Char.ofNat 0 ∉ c.source.toList ∧ (words c.source).1 = "hold")
  seen : (b.engine.getD []).reverse = (asked.filter fun c => Char.ofNat 0 ∉ c.source.toList).map (·.id)

section Run

variable {reports : Nat} {asked : List Command} {m : Moment (List InvocationId)}

theorem fate_eq_meaning (c : Command) : c.fate (fun c => meaning c.source) = meaning c.source := by
  unfold Command.fate
  cases hf : encodingFault? c.source with
  | some f => exact (meaning_of_fault hf).symm
  | none => rfl

variable (undisturbed : Undisturbed asked m) (regular : m.Regular)
  (course : Course (reporting reports) (fun c => meaning c.source) [] m)
include undisturbed regular course

theorem meant_of_undisturbed : Meant asked m.bridge where
  issued := undisturbed.issued
  resolved c hc _ ho := fate_eq_meaning c ▸ undisturbed.fate_of_resolved regular course hc ho
  found c hc hr _ ho := fate_eq_meaning c ▸ undisturbed.fate_of_look regular course hc hr ho

theorem told_of_settled (sees : Sees m) (settled : Settled m) : Told asked m.bridge where
  resolved c hc o := by
    rw [← fate_eq_meaning c]
    exact ⟨undisturbed.fate_of_resolved regular course hc, undisturbed.resolved_of_settled regular course settled hc⟩
  found c hc hr := by
    rw [← fate_eq_meaning c]
    exact undisturbed.look_of_settled regular course settled hc hr
  pending := by
    have pending : m.bridge.pending = asked.countP fun c => (meaning c.source).isNone := by
      simpa only [fate_eq_meaning] using undisturbed.pending_of_settled regular course settled
    refine pending.trans (List.countP_congr fun c _ => ?_)
    rw [Option.isNone_iff_eq_none, meaning_eq_none_iff, decide_eq_true_iff]
  seen := by
    have handed : m.bridge.handed = asked.filter fun c => Char.ofNat 0 ∉ c.source.toList := by
      refine (undisturbed.handed_of_settled regular settled).trans (undisturbed.sent.trans ?_)
      refine List.filter_congr fun c _ => ?_
      rw [Bool.eq_iff_iff, Option.isNone_iff_eq_none, encodingFault?_eq_none, decide_eq_true_iff]
    rw [Sees, settled.idle] at sees
    rw [← handed]
    cases hs : m.bridge.engine with
    | some seen => exact sees seen hs
    | none =>
      have none_handed : m.bridge.handed = [] := by
        refine List.eq_nil_iff_forall_not_mem.2 fun c hc => ?_
        have some := (regular.ready.handed c hc).2
        exact absurd (hs ▸ some) (by decide)
      rw [none_handed]
      rfl

end Run

/-- Two sources are invoked before the thread looks at the gate: one is left open, one throws. -/
def mixedRun : List (Move (List InvocationId)) :=
  [.advance, .advance, .advance, .act (.invoke "hold"), .block " throw x"] ++ Moment.alone 9

end ScriptHost
