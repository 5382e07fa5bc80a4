import ScriptHost.Proofs.Bridge.Dispositions
import ScriptHost.Proofs.Engine.Command
import ScriptHost.Proofs.Engine.Freshness
import ScriptHost.Proofs.Wire.Posting
/-!
Issued ids stand in programs and messages as they are.

An issued id has plain characters only. So it needs no escapes in a JSON string, and as the first line of a
program it ends where the source begins. `serving_after` says of every engine that, in a run, it serves
the commands that it is given; so what holds of one evaluation holds of those on a bridge.
-/

namespace ScriptHost

open Bridge Command

variable {σ : Type} {e : Engine σ} {m m' : Moment σ} {c : Command} {id : InvocationId}

/-! ## Messages -/

/-- JSON writes a plain character as it is. -/
theorem Json.escapedChar_of_plain {x : Char} (h : Config.Plain x) : escapedChar x = [x] := by
  have other : ∀ y, Config.isStemChar y = false → x ≠ y := by
    rintro y hy rfl
    simp [Config.isStemChar_iff.2 h] at hy
  have visible : ¬ x < ' ' := by
    rcases h with ⟨low, -⟩ | ⟨low, -⟩ | ⟨low, -⟩ | rfl | rfl
    · exact not_lt.2 (le_trans (by decide) low)
    · exact not_lt.2 (le_trans (by decide) low)
    · exact not_lt.2 (le_trans (by decide) low)
    · decide
    · decide
  unfold escapedChar
  rw [if_neg (other _ (by decide)), if_neg (other _ (by decide)), if_neg (other _ (by decide)),
    if_neg (other _ (by decide)), if_neg (other _ (by decide)), if_neg (other _ (by decide)),
    if_neg (other _ (by decide)), if_neg visible]

theorem Json.stringChars_of_plain {s : String} (h : ∀ x ∈ s.toList, Config.Plain x) :
    stringChars s = '\"' :: (s.toList ++ ['\"']) := by
  have same : s.toList.flatMap escapedChar = s.toList := by
    rw [List.flatMap_congr fun x hx => escapedChar_of_plain (h x hx), List.flatMap_singleton']
  rw [stringChars, same]

/-- The message that completes an invocation with a value, the id and the value's text put in as they are. -/
def splicedMessage (id : InvocationId) (v : Json) : String :=
  "\x7b\"id\":\"" ++ id.text ++ "\",\"value\":" ++ v.text ++ "\x7d"

theorem splicedMessage_eq (h : ∀ x ∈ id.text.toList, Config.Plain x) (v : Json) :
    splicedMessage id v = (Signal.ofValue id v).text := by
  have chars : (Signal.ofValue id v).toJson.chars = '\x7b' :: (Json.stringChars "id" ++ ':' ::
      (Json.stringChars id.text ++ ',' :: (Json.stringChars "value" ++ ':' :: (v.chars ++ ['\x7d'])))) := rfl
  have keys : Json.stringChars "id" = "\"id\"".toList ∧ Json.stringChars "value" = "\"value\"".toList := by decide
  refine String.toList_inj.1 ?_
  rw [Signal.text, Json.text, String.toList_ofList, chars, keys.1, keys.2, Json.stringChars_of_plain h]
  simp [splicedMessage, Json.text]

/-! ## Serving commands -/

/-- What the engine returned for a command, and the command. -/
@[simp] def Event.result? : Event → Option (Command × Except Abort Unit)
  | returned c r => some (c, r)
  | _ => none

theorem Event.result_ofWork : OfWork result? := fun v h => by cases v <;> first | rfl | cases h

/-- The commands that the engine is done with, each with what it returned. -/
abbrev Bridge.results (b : Bridge σ) : List (Command × Except Abort Unit) := b.record Event.result?

/-- What is left of the thread's work brings to an end what the engine began when it was given the command. -/
def Work.Serves (e : Engine σ) : Work σ → Prop
  | .idle | .building _ => True
  | .wrapping c rest =>
    ∃ s as, ∀ as' r, rest.Performs as' r → (e.wrap s c.id c.source).Performs (as ++ as') r
  | .evaluating c rest => ∃ s as, ∀ as' r, rest.Performs as' r → e.Serves c s (as ++ as') r

/-- What the engine is at, and what it returned, belongs to commands that it was given, and it served them. -/
structure Serving (e : Engine σ) (m : Moment σ) : Prop where
  work : m.work.Serves e
  results : ∀ c r, (c, r) ∈ m.bridge.results → c ∈ m.bridge.handed ∧ ∃ s as t, e.Serves c s as (t, r)

namespace Serving

/-- The journal says the same about results, and no less about what was handed over. -/
theorem frame {b : Bridge σ} {w : Work σ} (h : Serving e m) (results : b.results = m.bridge.results)
    (handed : m.bridge.handed ⊆ b.handed) (work : w.Serves e) : Serving e ⟨b, w⟩ where
  work := work
  results c r hc := by
    obtain ⟨given, served⟩ := h.results c r (results ▸ hc)
    exact ⟨handed given, served⟩

theorem outer {b : Bridge σ} (h : Serving e m) (ho : m.bridge.Outer b) : Serving e ⟨b, m.work⟩ :=
  h.frame (record_outer Event.result_ofWork ho) (Moment.record_mono (Moment.journal_outer ho)).subset h.work

theorem returned {b : Bridge σ} {w : Work σ} (h : Serving e ⟨b, w⟩) (given : c ∈ b.handed) {s t : σ} {as : List Act}
    {r : Except Abort Unit} (served : e.Serves c s as (t, r)) : Serving e ⟨b.returned c (t, r), .idle⟩ := by
  have results : (b.returned c (t, r)).results = b.results ++ [(c, r)] := record_returned Event.result_ofWork c _
  have handed : (b.returned c (t, r)).handed = b.handed := by simp [record_returned Event.handed_ofWork]
  refine ⟨trivial, fun c' r' hr => ?_⟩
  change c' ∈ (b.returned c (t, r)).handed ∧ _
  rw [handed]
  have hr' : (c', r') ∈ b.results ++ [(c, r)] := results ▸ hr
  rcases List.mem_append.1 hr' with earlier | now
  · exact h.results c' r' earlier
  · obtain ⟨rfl, rfl⟩ := Prod.mk.inj (List.mem_singleton.1 now)
    exact ⟨given, s, as, t, served⟩

theorem idle {b : Bridge σ} (h : Serving e ⟨b, .idle⟩) (hs : Stride e ⟨b, .idle⟩ m') : Serving e m' := by
  have handed : b.handed ⊆ m'.bridge.handed := (Moment.record_mono (Moment.journal_stride hs)).subset
  cases hs with
  | rest => exact h
  | beginBuild | drain | park | defer | serve => exact h.frame rfl handed trivial
  | close => exact h.frame (record_close Event.result_ofWork) handed trivial
  | skip hn => exact h.frame (by simp [record_next _ hn]) handed trivial
  | refuse hn => exact h.frame (by simp [record_next _ hn]) handed trivial
  | handOver hn hi hg hs =>
    refine h.frame (by simp [record_next _ hn]) handed ⟨_, [], fun as' r performs => performs⟩

theorem busy (h : Serving e m) (given : ∀ c, m.work.command? = some c → c ∈ m.bridge.handed) (hw : m.work ≠ .idle) :
    Serving e (m.advance e) := by
  have handed : m.bridge.handed ⊆ (m.advance e).bridge.handed :=
    (Moment.record_mono (Moment.journal_stride (Moment.stride_advance e m))).subset
  obtain ⟨b, work⟩ := m
  have acted : ∀ a, (b.perform a).2.results = b.results :=
    fun a => record_outer Event.result_ofWork (acted_perform b a).outer
  cases work with
  | idle => exact absurd rfl hw
  | building rest =>
    cases rest with
    | done r => exact h.frame (by simp [record_built Event.result_ofWork]) handed trivial
    | act a next => exact h.frame (acted a) handed trivial
  | wrapping c rest =>
    obtain ⟨s, as, wraps⟩ := h.work
    rcases rest with ⟨t, (a | program)⟩ | ⟨a, next⟩
    · exact h.returned (given c rfl) (.refuses (wraps [] _ (.done _)))
    · have wrapped := wraps [] _ (.done _)
      refine h.frame (record_note_aside rfl b) handed ⟨s, as ++ [], fun as' r performs => ?_⟩
      exact .evaluates wrapped performs
    · refine h.frame (acted a) handed ⟨s, as ++ [a], fun as' r performs => ?_⟩
      rw [List.append_assoc]
      exact wraps _ r (.act _ performs)
  | evaluating c rest =>
    obtain ⟨s, as, serves⟩ := h.work
    cases rest with
    | done r => exact h.returned (given c rfl) (serves [] r (.done r))
    | act a next =>
      refine h.frame (acted a) handed ⟨s, as ++ [a], fun as' r performs => ?_⟩
      rw [List.append_assoc]
      exact serves _ r (.act _ performs)

end Serving

/-- In every run an engine serves the commands that it is given, and returns what serving them comes to. -/
theorem serving_after (e : Engine σ) (config : Config) (number : Nat) (vs : List (Move σ)) :
    Serving e ((Moment.start config number).after e vs) := by
  refine Moment.after_induction ⟨trivial, nofun⟩ (fun b m' _ serving hs => serving.idle hs) ?_ ?_
  · rintro m ⟨us, rfl⟩ hw serving
    exact serving.busy (fun c => (regular_after e config number us).current_handed) hw
  · intro m v _ _ serving
    exact serving.outer (outer_move m.bridge v)

/-! ## Programs -/

namespace Command

variable {build : Conduct (Except Abort Unit)} {seen : List InvocationId} {as : List Act}

theorem wrap_engine (build : Conduct (Except Abort Unit)) (seen : List InvocationId) (id : InvocationId)
    (source : String) : (engine build).wrap seen id source = .done (seen, .ok (program id source)) := rfl

theorem evaluate_engine (build : Conduct (Except Abort Unit)) : (engine build).evaluate = evaluate := rfl

/-- The failure of an evaluation that is given the program of another id. -/
def lostId : Failure := .transport "wrapped program lost its invocation id"

/-- A program is refused exactly under another id than its own, and then nothing is done and nothing seen. -/
theorem evaluate_eq_refused_iff (h : '\n' ∉ id.text.toList) (j : InvocationId) (source : String) :
    evaluate seen j (program id source) = .done (seen, .error (.failed lostId)) ↔ id ≠ j := by
  constructor
  · rintro refused rfl
    rw [evaluate_program (c := ⟨id, source⟩) h] at refused
    cases hc : (Instruction.ofSource source).conduct id with
    | done r => simp [hc, Conduct.map, Conduct.bind] at refused
    | act x next => simp [hc, Conduct.map, Conduct.bind] at refused
  · intro other
    have texts : id.text ≠ j.text := fun same => other (InvocationId.text_injective same)
    rw [evaluate, cut_program h]
    exact if_pos texts

/-- How the engine serves a command under an id of one line: it does what the source asks for. -/
theorem serves_iff (h : '\n' ∉ c.id.text.toList) {r : List InvocationId × Except Abort Unit} :
    (engine build).Serves c seen as r ↔
      ∃ a, ((Instruction.ofSource c.source).conduct c.id).Performs as a ∧ r = (c.id :: seen, a) := by
  rw [Engine.serves_of_wrapped (wrap_engine build seen c.id c.source), evaluate_engine, evaluate_program h,
    Conduct.performs_map_iff]

/-- An evaluation fails in transport only where its source says so. -/
theorem reject_of_performs {i : Instruction} {message : String}
    (h : (i.conduct id).Performs as (.error (.failed (.transport message)))) : i = .reject message := by
  cases i with
  | value literal =>
    rw [Instruction.conduct] at h
    split at h
    · cases h with
      | act r h => cases h
    · cases h
  | empty | throw | raw =>
    cases h with
    | act r h => cases h
  | reject =>
    cases h
    rfl
  | hold | panic | unknown => cases h

end Command

/-- An id that is issued under valid settings can be put into messages and programs as it is. A posted message into
which it is spliced completes this very id, if it is pending, with the value. The program that a source is wrapped into
for the id does what this very source asks for, under this id and under no other: under all others it is refused, with
nothing done and nothing seen. So it is in every run of a bridge under these settings: what the engine is at is what the
command's source asks for, what it returned is what comes of that, and no source is refused as if its program were
another id's but one that asks for it in so many words. -/
theorem issued_ids_stand_verbatim (config : Config) (valid : config.validate = .ok ()) (n : Nat) :
    let id := InvocationId.issue config.idStem n
    (∀ v : Json, v.Portable → ∀ (σ : Type) (b : Bridge σ), b.table.isPending id →
      (b.post (splicedMessage id v)).1 = .resolved ∧ Completes id (.ok v) b (b.post (splicedMessage id v)).2) ∧
    (∀ (build : Conduct (Except Abort Unit)) (source : String), ∃ wrapped,
      (∀ seen, (engine build).wrap seen id source = .done (seen, .ok wrapped)) ∧
      (∀ seen, (engine build).evaluate seen id wrapped =
        ((Instruction.ofSource source).conduct id).map fun r => (id :: seen, r)) ∧
      ∀ seen j, (engine build).evaluate seen j wrapped = .done (seen, .error (.failed lostId)) ↔ id ≠ j) ∧
    ∀ (build : Conduct (Except Abort Unit)) (number : Nat) (vs : List (Move (List InvocationId))),
      let m := (Moment.start config number).after (engine build) vs
      (∀ c rest, m.work = .evaluating c rest → ∃ seen did, ∀ as r, rest.Performs as r →
        ∃ a, ((Instruction.ofSource c.source).conduct c.id).Performs (did ++ as) a ∧ r = (c.id :: seen, a)) ∧
      (∀ c r, (c, r) ∈ m.bridge.results → ∃ as, ((Instruction.ofSource c.source).conduct c.id).Performs as r) ∧
      (∀ c, (c, .error (.failed lostId)) ∈ m.bridge.results →
        Instruction.ofSource c.source = .reject "wrapped program lost its invocation id") := by
  intro id
  have sound : config.Sound := Config.violation?_eq_none_iff.1 (Config.validate_eq_ok_iff.1 valid)
  have plain : ∀ x ∈ id.text.toList, Config.Plain x := sound.plain_issue n
  have line : '\n' ∉ id.text.toList := sound.newline_not_mem_issue n
  clear_value id
  refine ⟨fun v portable σ b pending => ?_, fun build source => ?_, fun build number vs => ?_⟩
  · have portable : (Signal.ofValue id v).Portable := by
      rintro w ⟨⟩
      exact portable
    rw [splicedMessage_eq plain v, b.post_signal portable]
    exact ⟨if_pos pending, completes (Table.isPending_iff.1 pending) (.ok v)⟩
  · refine ⟨program id source, fun seen => wrap_engine build seen id source, fun seen => ?_, fun seen j => ?_⟩
    · rw [evaluate_engine]
      exact evaluate_program (c := ⟨id, source⟩) line seen
    · rw [evaluate_engine]
      exact evaluate_eq_refused_iff line j source
  · intro m
    have serving : Serving (engine build) m := serving_after (engine build) config number vs
    have regular : m.Regular := regular_after (engine build) config number vs
    have lines : ∀ c ∈ m.bridge.handed, '\n' ∉ c.id.text.toList := fun c hc =>
      newline_not_mem_issued (engine build) sound number vs c.id (regular.issued (regular.handed_sent hc))
    have returned : ∀ c r, (c, r) ∈ m.bridge.results →
        ∃ as, ((Instruction.ofSource c.source).conduct c.id).Performs as r := by
      intro c r hr
      obtain ⟨given, seen, as, t, served⟩ := serving.results c r hr
      obtain ⟨a, performs, same⟩ := (serves_iff (lines c given)).1 served
      obtain ⟨-, rfl⟩ := Prod.mk.inj same
      exact ⟨as, performs⟩
    refine ⟨fun c rest hw => ?_, returned, fun c hr => ?_⟩
    · have given : c ∈ m.bridge.handed := regular.current_handed (by rw [hw]; rfl)
      have work := serving.work
      rw [hw] at work
      obtain ⟨seen, did, serves⟩ := work
      exact ⟨seen, did, fun as r performs => (serves_iff (lines c given)).1 (serves as r performs)⟩
    · obtain ⟨as, performs⟩ := returned c _ hr
      exact reject_of_performs performs

/-- A bridge at which one invocation is pending. -/
def onePending : Bridge Unit := ((Bridge.fresh {} 1).dispatch "x").2

theorem first_id_stands_verbatim :
    let id := InvocationId.issue "inv" 1
    ({} : Config).validate = .ok () ∧ onePending.table.isPending id ∧
      (onePending.post "\x7b\"id\":\"inv-1\",\"value\":true\x7d").1 = .resolved ∧
      ∃ wrapped, (engine (.done (.ok ()))).wrap [] id "value 1\ninv-2\n" = .done ([], .ok wrapped) ∧
        (engine (.done (.ok ()))).evaluate [] (.issue "inv" 2) wrapped = .done ([], .error (.failed lostId)) := by
  intro id
  have valid : ({} : Config).validate = .ok () := Config.validate_eq_ok_iff.2 (by decide)
  have pending : onePending.table.isPending id := by decide
  have portable : (Json.bool true).Portable := ⟨rfl, by decide, nofun⟩
  have spliced : splicedMessage id (.bool true) = "\x7b\"id\":\"inv-1\",\"value\":true\x7d" := by decide
  obtain ⟨posts, programs, -⟩ := issued_ids_stand_verbatim {} valid 1
  obtain ⟨wrapped, wraps, -, refused⟩ := programs (.done (.ok ())) "value 1\ninv-2\n"
  refine ⟨valid, pending, ?_, wrapped, wraps [], (refused [] _).2 (by decide)⟩
  exact spliced ▸ (posts _ portable Unit onePending pending).1

end ScriptHost
