import ScriptHost.Wire.Message
import ScriptHost.Proofs.Json.RoundTrip
/-!
The grammar of messages.

`Means` says which message a JSON value stands for, form by form, without an order of attempts: a signal is
what has the form of a signal and of no lifecycle message. Each form counts the members under its keys, so
that a repeated key is as bad as a missing one. Reading a text finds exactly the message that its value
means.
-/

namespace ScriptHost

/-- The values of the members under a key, in the order of the text. -/
def Members.named (key : String) (ms : List (String × Json)) : List Json :=
  (ms.filter (·.1 = key)).map (·.2)

open Members

/-! ## Forms -/

/-- A tag is the name of a kind or its number. -/
inductive Tag.Form : Json → Tag → Prop where
  | readyName : Form (.str "ready") .ready
  | readyNumber : Form (.int 0) .ready
  | initErrorName : Form (.str "init_error") .initError
  | initErrorNumber : Form (.int 1) .initError

/-- The forms of a lifecycle message. An object needs one tag, and one text if it reports an error; an
array has nothing but these. -/
inductive Lifecycle.Form : Json → Lifecycle → Prop where
  | readyObject {ms : List (String × Json)} {t : Json} :
      named "type" ms = [t] → Tag.Form t .ready → Form (.obj ms) .ready
  | initErrorObject {ms : List (String × Json)} {t : Json} {e : String} :
      named "type" ms = [t] → Tag.Form t .initError → named "error" ms = [.str e] →
      Form (.obj ms) (.initError e)
  | readyArray {t : Json} : Tag.Form t .ready → Form (.arr [t]) .ready
  | initErrorArray {t : Json} {e : String} : Tag.Form t .initError → Form (.arr [t, .str e]) (.initError e)

/-- An optional value: at most one, and `null` is none. -/
inductive ValueForm : List Json → Option Json → Prop where
  | absent : ValueForm [] none
  | null : ValueForm [.null] none
  | present {v : Json} : v ≠ .null → ValueForm [v] (some v.canonical)

/-- An optional text: at most one, and `null` is none. -/
inductive ErrorForm : List Json → Option String → Prop where
  | absent : ErrorForm [] none
  | null : ErrorForm [.null] none
  | present (e : String) : ErrorForm [.str e] (some e)

/-- The forms of a signal: an object with one id, or an array of id, value and error of which the last or
the last two may be missing. -/
inductive Signal.Form : Json → Signal → Prop where
  | object {ms : List (String × Json)} {id : String} {value : Option Json} {error : Option String} :
      named "id" ms = [.str id] → ValueForm (named "value" ms) value → ErrorForm (named "error" ms) error →
      Form (.obj ms) ⟨⟨id⟩, value, error⟩
  | idArray (id : String) : Form (.arr [.str id]) ⟨⟨id⟩, none, none⟩
  | valueArray (id : String) {v : Json} {value : Option Json} : ValueForm [v] value →
      Form (.arr [.str id, v]) ⟨⟨id⟩, value, none⟩
  | errorArray (id : String) {v e : Json} {value : Option Json} {error : Option String} :
      ValueForm [v] value → ErrorForm [e] error → Form (.arr [.str id, v, e]) ⟨⟨id⟩, value, error⟩

/-- What a JSON value means: a lifecycle message if it has such a form, or else a signal. -/
inductive Message.Means : Json → Message → Prop where
  | lifecycle {v : Json} {l : Lifecycle} : Lifecycle.Form v l → Means v (.lifecycle l)
  | signal {v : Json} {s : Signal} : (∀ l, ¬ Lifecycle.Form v l) → Signal.Form v s → Means v (.signal s)

variable {v t e : Json} {ms : List (String × Json)} {l : Lifecycle} {s : Signal} {m m' : Message}
  {key raw : String} {tag : Tag} {value : Option Json} {error : Option String}

/-! ## Readings -/

theorem occurrence_eq (key : String) (ms : List (String × Json)) :
    occurrence key ms =
      match named key ms with
      | [] => .absent
      | [v] => .once v
      | _ => .repeated := by
  induction ms with
  | nil => rfl
  | cons m ms ih =>
    obtain ⟨k, v⟩ := m
    by_cases h : k = key
    · subst h
      have rest : named k ((k, v) :: ms) = v :: named k ms := by simp [named]
      simp only [occurrence, if_true, rest, ih]
      rcases named k ms with _ | ⟨w, _ | ⟨u, us⟩⟩ <;> rfl
    · have rest : named key ((k, v) :: ms) = named key ms := by simp [named, h]
      simp only [occurrence, h, if_false, rest, ih]

theorem occurrence_once : occurrence key ms = .once v ↔ named key ms = [v] := by
  rw [occurrence_eq]
  rcases named key ms with _ | ⟨w, _ | ⟨u, us⟩⟩ <;> simp

theorem Tag.ofJson?_iff : Tag.ofJson? t = some tag ↔ Tag.Form t tag := by
  constructor
  · intro h
    unfold Tag.ofJson? at h
    split at h
    · rename_i s
      by_cases ready : s = "ready"
      · subst ready
        cases (by simpa using h : Tag.ready = tag)
        exact .readyName
      · by_cases initError : s = "init_error"
        · subst initError
          cases (by simpa using h : Tag.initError = tag)
          exact .initErrorName
        · simp [ready, initError] at h
    · rename_i n
      by_cases ready : n = 0
      · subst ready
        cases (by simpa using h : Tag.ready = tag)
        exact .readyNumber
      · by_cases initError : n = 1
        · subst initError
          cases (by simpa using h : Tag.initError = tag)
          exact .initErrorNumber
        · simp [ready, initError] at h
    · simp at h
  · rintro (_ | _) <;> rfl

theorem Lifecycle.ofWritten?_iff : Lifecycle.ofWritten? v = some l ↔ Lifecycle.Form v l := by
  constructor
  · intro h
    unfold Lifecycle.ofWritten? at h
    split at h
    · split at h
      · rename_i tagged
        split at h
        · rename_i ready
          cases h
          exact .readyObject (occurrence_once.1 tagged) (Tag.ofJson?_iff.1 ready)
        · rename_i initError
          split at h
          · rename_i error
            cases h
            exact .initErrorObject (occurrence_once.1 tagged) (Tag.ofJson?_iff.1 initError)
              (occurrence_once.1 error)
          · simp at h
        · simp at h
      · simp at h
    · split at h
      · rename_i ready
        cases h
        exact .readyArray (Tag.ofJson?_iff.1 ready)
      · rename_i initError
        cases h
        exact .initErrorArray (Tag.ofJson?_iff.1 initError)
      · simp at h
    · simp at h
  · intro h
    cases h with
    | readyObject tagged ready =>
      simp [Lifecycle.ofWritten?, occurrence_once.2 tagged, Tag.ofJson?_iff.2 ready]
    | initErrorObject tagged initError error =>
      simp [Lifecycle.ofWritten?, occurrence_once.2 tagged, Tag.ofJson?_iff.2 initError,
        occurrence_once.2 error]
    | readyArray ready => simp [Lifecycle.ofWritten?, Tag.ofJson?_iff.2 ready]
    | initErrorArray initError => simp [Lifecycle.ofWritten?, Tag.ofJson?_iff.2 initError]

theorem presentValue_iff : presentValue v = value ↔ ValueForm [v] value := by
  constructor
  · rintro rfl
    by_cases null : v = .null
    · subst null
      exact .null
    · have present : presentValue v = some v.canonical := by cases v <;> simp_all [presentValue]
      rw [present]
      exact .present null
  · rintro (_ | _ | null)
    · rfl
    · cases v <;> simp_all [presentValue]

theorem presentError?_iff : presentError? e = some error ↔ ErrorForm [e] error := by
  constructor
  · intro h
    unfold presentError? at h
    split at h
    · cases h
      exact .null
    · cases h
      exact .present _
    · simp at h
  · rintro (_ | _ | _) <;> rfl

/-- What the members under a key give for the value of a signal. -/
def Occurrence.value? : Occurrence → Option (Option Json)
  | absent => some none
  | once v => some (presentValue v)
  | repeated => none

/-- What the members under a key give for the error of a signal. -/
def Occurrence.error? : Occurrence → Option (Option String)
  | absent => some none
  | once e => presentError? e
  | repeated => none

theorem value?_occurrence : (occurrence key ms).value? = some value ↔ ValueForm (named key ms) value := by
  rw [occurrence_eq]
  rcases named key ms with _ | ⟨v, _ | ⟨w, ws⟩⟩
  · exact ⟨by rintro ⟨⟩; exact .absent, by rintro ⟨⟩; rfl⟩
  · simp only [Occurrence.value?, Option.some.injEq]
    exact presentValue_iff
  · exact ⟨by rintro ⟨⟩, by rintro ⟨⟩⟩

theorem error?_occurrence : (occurrence key ms).error? = some error ↔ ErrorForm (named key ms) error := by
  rw [occurrence_eq]
  rcases named key ms with _ | ⟨e, _ | ⟨w, ws⟩⟩
  · exact ⟨by rintro ⟨⟩; exact .absent, by rintro ⟨⟩; rfl⟩
  · exact presentError?_iff
  · exact ⟨by rintro ⟨⟩, by rintro ⟨⟩⟩

theorem Signal.ofWritten?_obj {id : String} (h : named "id" ms = [.str id]) :
    Signal.ofWritten? (.obj ms) =
      (occurrence "value" ms).value?.bind fun value =>
        (occurrence "error" ms).error?.map fun error => ⟨⟨id⟩, value, error⟩ := by
  simp only [Signal.ofWritten?, occurrence_once.2 h]
  cases occurrence "value" ms with
  | repeated => rfl
  | absent | once => cases occurrence "error" ms with
    | absent | repeated => rfl
    | once e => simp only [Occurrence.value?, Occurrence.error?]; cases presentError? e <;> rfl

theorem Signal.ofWritten?_iff : Signal.ofWritten? v = some s ↔ Signal.Form v s := by
  constructor
  · intro h
    have read := h
    unfold Signal.ofWritten? at h
    split at h
    · split at h
      · rename_i ids
        have ids := occurrence_once.1 ids
        rw [Signal.ofWritten?_obj ids] at read
        obtain ⟨value, present, read⟩ := Option.bind_eq_some_iff.1 read
        obtain ⟨error, reported, rfl⟩ := Option.map_eq_some_iff.1 read
        exact .object ids (value?_occurrence.1 present) (error?_occurrence.1 reported)
      · simp at h
    · cases h
      exact .idArray _
    · cases h
      exact .valueArray _ (presentValue_iff.1 rfl)
    · obtain ⟨error, reported, rfl⟩ := Option.map_eq_some_iff.1 h
      exact .errorArray _ (presentValue_iff.1 rfl) (presentError?_iff.1 reported)
    · simp at h
  · intro h
    cases h with
    | object ids value error =>
      simp [Signal.ofWritten?_obj ids, value?_occurrence.2 value, error?_occurrence.2 error]
    | idArray id => rfl
    | valueArray id value => simp [Signal.ofWritten?, presentValue_iff.2 value]
    | errorArray id value error =>
      simp [Signal.ofWritten?, presentValue_iff.2 value, presentError?_iff.2 error]

namespace Message

theorem ofWritten?_iff : ofWritten? v = some m ↔ Means v m := by
  unfold ofWritten?
  cases lifecycle : Lifecycle.ofWritten? v with
  | some l =>
    have form := Lifecycle.ofWritten?_iff.1 lifecycle
    constructor
    · rintro ⟨⟩
      exact .lifecycle form
    · rintro (⟨form'⟩ | ⟨none, -⟩)
      · simpa [lifecycle] using Lifecycle.ofWritten?_iff.2 form'
      · exact absurd form (none l)
  | none =>
    have none : ∀ l, ¬ Lifecycle.Form v l := by
      intro l form
      simp [Lifecycle.ofWritten?_iff.2 form] at lifecycle
    constructor
    · intro h
      obtain ⟨s, signal, rfl⟩ := Option.map_eq_some_iff.1 h
      exact .signal none (Signal.ofWritten?_iff.1 signal)
    · rintro (⟨form⟩ | ⟨-, form⟩)
      · exact absurd form (none _)
      · simp [Signal.ofWritten?_iff.2 form]

theorem parse_of_readPrefix {c : Json.Cursor} (h : Json.readPrefix raw = .ok (v, c)) :
    parse raw =
      match ofWritten? v with
      | none => .error mismatch
      | some m => (Json.readEnd c).map fun _ => m := by
  simp only [parse, h, bind, Except.bind]
  cases ofWritten? v with
  | none => rfl
  | some m => cases Json.readEnd c <;> rfl

theorem parse_iff : parse raw = .ok m ↔ ∃ v, Json.readWritten raw = .ok v ∧ Means v m := by
  constructor
  · intro h
    cases read : Json.readPrefix raw with
    | error e => simp [parse, read, bind, Except.bind] at h
    | ok r =>
      obtain ⟨v, c⟩ := r
      rw [parse_of_readPrefix read] at h
      cases meant : ofWritten? v with
      | none => simp [meant] at h
      | some m' =>
        cases ended : Json.readEnd c with
        | error e => simp [meant, ended, Except.map] at h
        | ok =>
          obtain rfl : m' = m := by simpa [meant, ended, Except.map] using h
          exact ⟨v, Json.readWritten_iff.2 ⟨c, read, ended⟩, ofWritten?_iff.1 meant⟩
  · rintro ⟨v, written, means⟩
    obtain ⟨c, read, ended⟩ := Json.readWritten_iff.1 written
    simp [parse_of_readPrefix read, ofWritten?_iff.2 means, ended, Except.map]

/-- What is not read is no document that means a message. -/
theorem unread_iff : (∃ e, parse raw = .error e) ↔ ¬ ∃ v m, Json.readWritten raw = .ok v ∧ Means v m := by
  constructor
  · rintro ⟨e, he⟩ ⟨v, m, read⟩
    rw [parse_iff.2 ⟨v, read⟩] at he
    cases he
  · intro meaningless
    cases hm : parse raw with
    | error e => exact ⟨e, rfl⟩
    | ok m =>
      obtain ⟨v, read⟩ := parse_iff.1 hm
      exact absurd ⟨v, m, read⟩ meaningless

theorem parse_of_meaningless (h : Json.readWritten raw = .ok v) (none : ∀ m, ¬ Means v m) :
    parse raw = .error mismatch := by
  obtain ⟨c, read, -⟩ := Json.readWritten_iff.1 h
  rw [parse_of_readPrefix read]
  cases meant : ofWritten? v with
  | none => rfl
  | some m => exact absurd (ofWritten?_iff.1 meant) (none m)

theorem parse_text (hd : v.nesting < Json.depthLimit) (hw : v.Words) :
    parse v.text = .ok m ↔ Means v m := by
  rw [parse_iff, Json.readWritten_text hd hw]
  simp

theorem means_unique (h : Means v m) (h' : Means v m') : m = m' :=
  Option.some.inj ((ofWritten?_iff.2 h).symm.trans (ofWritten?_iff.2 h'))

end Message

/-- The grammar of messages, exactly: a text gives a message if and only if it is one document that means this message.
No document means two messages, and one that means none is refused for what it is. Every document of whole numbers
within the depth limit has a text to which all this applies. -/
theorem messages_are_read_by_their_form :
    (∀ raw m, Message.parse raw = .ok m ↔ ∃ v, Json.readWritten raw = .ok v ∧ Message.Means v m) ∧
      (∀ v m m', Message.Means v m → Message.Means v m' → m = m') ∧
      (∀ raw v, Json.readWritten raw = .ok v → (∀ m, ¬ Message.Means v m) →
        Message.parse raw = .error Message.mismatch) ∧
      ∀ v : Json, v.nesting < Json.depthLimit → v.Words →
        Json.readWritten v.text = .ok v ∧ ∀ m, Message.parse v.text = .ok m ↔ Message.Means v m :=
  ⟨fun _ _ => Message.parse_iff, fun _ _ _ => Message.means_unique, fun _ _ => Message.parse_of_meaningless,
    fun _ hd hw => ⟨Json.readWritten_text hd hw, fun _ => Message.parse_text hd hw⟩⟩

/-- A value that almost is a lifecycle message can still be a signal. -/
example : Message.ofWritten? (.arr [.str "init_error", .int 5]) =
    some (.signal ⟨⟨"init_error"⟩, some (.int 5), none⟩) := rfl

end ScriptHost
