import ScriptHost.Bridge.State
import ScriptHost.Proofs.Json.Bounds
import ScriptHost.Proofs.Wire.Grammar
/-!
Messages survive their text.

The text of a message means the message, up to a value that is `null`, which counts as no value. So a
bridge cannot tell a posted text from the call that it stands for, and a message that was ever read can be
written and read again.
-/

namespace ScriptHost

open Members

variable {σ : Type} {v doc : Json} {s : Signal} {m : Message} {raw : String}

/-! ## Messages that can be sent -/

/-- A value that fits into a message and holds whole numbers only. Its objects are maps: each key stands once,
in order. -/
structure Json.Portable (v : Json) : Prop where
  canonical : v.canonical = v
  shallow : v.nesting ≤ 126
  words : v.Words

/-- If the signal has a value, it can be sent. -/
def Signal.Portable (s : Signal) : Prop := ∀ v ∈ s.value, v.Portable

/-- If the message has a value, it can be sent. -/
def Message.Portable : Message → Prop
  | lifecycle _ => True
  | signal s => s.Portable

/-- The signal without its value if that is `null`. -/
def Signal.withoutNull (s : Signal) : Signal :=
  match s.value with
  | some .null => { s with value := none }
  | _ => s

/-- The message without its value if that is `null`. -/
def Message.withoutNull : Message → Message
  | lifecycle l => .lifecycle l
  | signal s => .signal s.withoutNull

theorem Signal.withoutNull_of_ne (h : s.value ≠ some .null) : s.withoutNull = s := by
  unfold withoutNull
  split
  · contradiction
  · rfl

theorem Signal.outcome_withoutNull (s : Signal) : s.withoutNull.outcome = s.outcome := by
  obtain ⟨id, value, error⟩ := s
  unfold withoutNull
  split
  · rename_i null
    obtain rfl : value = some .null := null
    cases error <;> rfl
  · rfl

theorem Signal.id_withoutNull (s : Signal) : s.withoutNull.id = s.id := by
  unfold withoutNull
  split <;> rfl

/-! ## Written messages -/

/-- The members of a signal's text. -/
def Signal.members (s : Signal) : List (String × Json) :=
  ("id", .str s.id.text) :: (s.value.map fun v => ("value", v)).toList
    ++ (s.error.map fun e => ("error", Json.str e)).toList

theorem Signal.named_members (s : Signal) :
    named "id" s.members = [.str s.id.text] ∧ named "value" s.members = s.value.toList ∧
      named "error" s.members = (s.error.map Json.str).toList ∧ named "type" s.members = [] := by
  obtain ⟨id, value, error⟩ := s
  cases value <;> cases error <;> simp [members, named]

theorem Signal.nesting_toJson_lt (h : s.Portable) : s.toJson.nesting < Json.depthLimit := by
  obtain ⟨id, value, error⟩ := s
  have low : ∀ v ∈ value, v.nesting ≤ 126 := fun v hv => (h v hv).shallow
  cases value <;> cases error <;>
    simp_all [toJson, Json.nesting, Json.membersNesting, Json.depthLimit] <;> omega

theorem Signal.words_toJson (h : s.Portable) : s.toJson.Words := by
  obtain ⟨id, value, error⟩ := s
  have words : ∀ v ∈ value, v.Words := fun v hv => (h v hv).words
  cases value <;> cases error <;> simp_all [toJson, Json.Words, Json.numbers, Json.membersNumbers]

theorem Signal.form_toJson (h : s.Portable) : Signal.Form s.toJson s.withoutNull := by
  obtain ⟨ids, values, errors, -⟩ := s.named_members
  obtain ⟨id, value, error⟩ := s
  have reported : ErrorForm (error.map Json.str).toList error := by
    cases error with
    | none => exact .absent
    | some e => exact .present e
  cases value with
  | none => exact .object ids (values ▸ .absent) (errors ▸ reported)
  | some v =>
    by_cases null : v = .null
    · subst null
      exact .object ids (values ▸ .null) (errors ▸ reported)
    · have present : ValueForm [v] (some v) := by
        simpa [(h v rfl).canonical] using ValueForm.present null
      rw [withoutNull_of_ne (by simpa using null)]
      exact .object ids (values ▸ present) (errors ▸ reported)

theorem Message.means_toJson (h : m.Portable) : Means m.toJson m.withoutNull := by
  cases m with
  | lifecycle l =>
    cases l with
    | ready => exact .lifecycle (.readyObject (t := .str "ready") (by simp [named]) .readyName)
    | initError reason =>
      exact .lifecycle
        (.initErrorObject (t := .str "init_error") (by simp [named]) .initErrorName (by simp [named]))
  | signal s =>
    obtain ⟨-, -, -, untagged⟩ := s.named_members
    refine .signal ?_ (Signal.form_toJson h)
    intro l form
    have tagged : ∃ t, named "type" s.members = [t] := by
      cases form with
      | readyObject tagged => exact ⟨_, tagged⟩
      | initErrorObject tagged => exact ⟨_, tagged⟩
    obtain ⟨t, tagged⟩ := tagged
    simp [untagged] at tagged

theorem Message.parse_written (h : m.Portable) : parse m.text = .ok m.withoutNull := by
  have low : m.toJson.nesting < Json.depthLimit := by
    cases m with
    | lifecycle l => cases l <;> simp [toJson, Lifecycle.toJson, Json.nesting, Json.membersNesting, Json.depthLimit]
    | signal s => exact Signal.nesting_toJson_lt h
  have words : m.toJson.Words := by
    cases m with
    | lifecycle l => cases l <;> simp [toJson, Lifecycle.toJson, Json.Words, Json.numbers, Json.membersNumbers]
    | signal s => exact Signal.words_toJson h
  exact (parse_text low words).2 (means_toJson h)

/-! ## Posting -/

theorem Bridge.signal_withoutNull (b : Bridge σ) (s : Signal) : b.signal s.withoutNull = b.signal s := by
  simp only [signal, Signal.id_withoutNull, Signal.outcome_withoutNull]

theorem Bridge.post_signal (b : Bridge σ) (h : s.Portable) : b.post s.text = b.signal s := by
  have parsed : Message.parse s.text = .ok (.signal s.withoutNull) :=
    Message.parse_written (m := .signal s) h
  simp only [post, parsed, signal_withoutNull]

theorem Bridge.post_ready (b : Bridge σ) : b.post Lifecycle.ready.text = b.ready := by
  have parsed : Message.parse Lifecycle.ready.text = .ok (.lifecycle .ready) :=
    Message.parse_written (m := .lifecycle .ready) trivial
  simp only [post, parsed]

theorem Bridge.post_initError (b : Bridge σ) (reason : String) :
    b.post (Lifecycle.initError reason).text = b.initFailed reason := by
  have parsed : Message.parse (Lifecycle.initError reason).text = .ok (.lifecycle (.initError reason)) :=
    Message.parse_written (m := .lifecycle (.initError reason)) trivial
  simp only [post, parsed]

/-! ## Read messages -/

/-- The value of a signal stood in its document, as it is up to the order of members. -/
theorem Signal.Form.source (h : Signal.Form doc s) (hv : s.value = some v) :
    ∃ u : Json, u ≠ .null ∧ v = u.canonical ∧ u.Inside doc := by
  have field : ∃ us, ValueForm us (some v) ∧ ∀ u ∈ us, u.Inside doc := by
    cases h with
    | object _ present _ =>
      simp only at hv
      subst hv
      refine ⟨_, present, ?_⟩
      intro u hu
      obtain ⟨m, hm, rfl⟩ := List.mem_map.1 hu
      exact Json.inside_obj (List.mem_of_mem_filter hm)
    | idArray => simp at hv
    | valueArray id present =>
      simp only at hv
      subst hv
      exact ⟨_, present, by simpa using Json.inside_arr (by simp)⟩
    | errorArray id present _ =>
      simp only at hv
      subst hv
      exact ⟨_, present, by simpa using Json.inside_arr (by simp)⟩
  obtain ⟨us, present, inside⟩ := field
  cases present with
  | present null => exact ⟨_, null, rfl, inside _ (by simp)⟩

/-- Whatever is read can be sent, unless there are doubles in it, and has no `null` for a value. -/
theorem Message.portable_of_parse (h : parse raw = .ok (.signal s))
    (whole : ∀ v ∈ s.value, ∀ x ∈ v.numbers, ∃ n, x = .int n) : s.Portable ∧ s.value ≠ some .null := by
  obtain ⟨doc, written, means⟩ := parse_iff.1 h
  obtain ⟨c, read, -⟩ := Json.readWritten_iff.1 written
  have bounded := Json.readPrefix_sound read
  cases means with
  | signal _ form =>
    constructor
    · intro v hv
      obtain ⟨u, null, rfl, shallow, numbers⟩ := form.source hv
      refine ⟨Json.canonical_canonical u, ?_, ?_⟩
      · -- The document itself is one level.
        have limit : doc.nesting < 128 := bounded.nesting
        have lower := Json.nesting_canonical_le u
        omega
      · intro x hx
        obtain ⟨n, rfl⟩ := whole _ hv x hx
        exact bounded.whole n (numbers (Json.numbers_canonical_subset u hx))
    · intro none
      obtain ⟨u, null, e, -⟩ := form.source none
      exact Json.canonical_ne_null null e.symm

/-- Messages survive their text: a written message is read back, without its value if that is null, and a message that
was read is written and read back as it is. A signal is written alike by itself and as a message. Posting the text is
calling: the answer is the same, and so is the bridge behind it. -/
theorem messages_survive_their_text :
    (∀ m : Message, m.Portable → Message.parse m.text = .ok m.withoutNull) ∧
      (∀ s : Signal, (Message.signal s).text = s.text) ∧
      (∀ (σ : Type) (b : Bridge σ),
        (∀ s : Signal, s.Portable → b.post s.text = b.signal s) ∧
          b.post Lifecycle.ready.text = b.ready ∧
          ∀ reason, b.post (Lifecycle.initError reason).text = b.initFailed reason) ∧
      ∀ raw m, Message.parse raw = .ok m →
        (∀ s, m = .signal s → ∀ v ∈ s.value, ∀ x ∈ v.numbers, ∃ n, x = .int n) →
        Message.parse m.text = .ok m := by
  refine ⟨fun m h => Message.parse_written h, fun _ => rfl, fun σ b => ?_, ?_⟩
  · exact ⟨fun s h => b.post_signal h, b.post_ready, b.post_initError⟩
  · intro raw m parsed whole
    cases m with
    | lifecycle l => exact Message.parse_written (m := .lifecycle l) trivial
    | signal s =>
      obtain ⟨portable, null⟩ := Message.portable_of_parse parsed (whole s rfl)
      have again := Message.parse_written (m := .signal s) portable
      simpa only [Message.withoutNull, Signal.withoutNull_of_ne null] using again

end ScriptHost
