import ScriptHost.Proofs.Bridge.Turns
import ScriptHost.Proofs.Wire.Id
import ScriptHost.Session.Run
import Mathlib.Data.List.Basic
/-!
Which settings start a bridge.

`Config.Violates` says what each rule demands, and that no earlier rule is violated. Valid settings violate
none, and only they start a bridge. One thing stands in no rule: a thread's name holds no NUL, and
where it does, starting the bridge panics.
-/

namespace ScriptHost

namespace Config

variable {c : Config} {v : Violation}

/-- The ASCII letters and digits, the hyphen and the underscore. -/
def Plain (x : Char) : Prop :=
  ('a' ≤ x ∧ x ≤ 'z') ∨ ('A' ≤ x ∧ x ≤ 'Z') ∨ ('0' ≤ x ∧ x ≤ '9') ∨ x = '-' ∨ x = '_'

theorem isStemChar_iff {x : Char} : isStemChar x = true ↔ Plain x := by
  have alphanum : x.isAlphanum = (x.isUpper || x.isLower || x.isDigit) := rfl
  have upper : x.isUpper = decide ('A' ≤ x ∧ x ≤ 'Z') := rfl
  have lower : x.isLower = (decide ('a' ≤ x) && decide (x ≤ 'z')) := rfl
  have digit : x.isDigit = (decide ('0' ≤ x) && decide (x ≤ '9')) := rfl
  simp only [isStemChar, alphanum, upper, lower, digit, Plain, Bool.or_eq_true, Bool.and_eq_true,
    decide_eq_true_eq]
  tauto

/-- The first rule that the settings violate: the stem is empty, or a character of it is not plain, and then it
is about the first such character, or the thread has no name. -/
inductive Violates (c : Config) : Violation → Prop
  | emptyStem (stem : c.idStem = "") : Violates c .emptyStem
  | stemCharacter {before after : List Char} {x : Char} (stem : c.idStem.toList = before ++ x :: after)
      (plain : ∀ y ∈ before, Plain y) (odd : ¬ Plain x) : Violates c (.stemCharacter x)
  | emptyThreadName (stem : c.idStem ≠ "") (plain : ∀ x ∈ c.idStem.toList, Plain x) (name : c.threadName = "") :
      Violates c .emptyThreadName

/-- The rules hold: what is spliced into programs is plain and not empty, and the thread has a name. -/
structure Sound (c : Config) : Prop where
  stem : c.idStem ≠ ""
  plain : ∀ x ∈ c.idStem.toList, Plain x
  name : c.threadName ≠ ""

theorem isEmpty_toList_iff {s : String} : s.toList.isEmpty = true ↔ s = "" := by
  simp

/-- A rule that is the first violated one is found. -/
theorem Violates.found (h : c.Violates v) : c.violation? = some v := by
  cases h with
  | emptyStem stem => exact if_pos (isEmpty_toList_iff.2 stem)
  | @stemCharacter before after x stem plain odd =>
    have written : ¬ c.idStem.toList.isEmpty := by simp [stem]
    have first : c.idStem.toList.find? (fun x => !isStemChar x) = some x := by
      refine List.find?_eq_some_iff_append.2 ⟨?_, before, after, stem, fun y hy => ?_⟩
      · simpa [← isStemChar_iff] using odd
      · simpa [isStemChar_iff] using plain y hy
    rw [violation?, if_neg written, first]
  | emptyThreadName stem plain name =>
    have written : ¬ c.idStem.toList.isEmpty := fun h => stem (isEmpty_toList_iff.1 h)
    have none_odd : c.idStem.toList.find? (fun x => !isStemChar x) = none :=
      List.find?_eq_none.2 fun x hx => by simpa [isStemChar_iff] using plain x hx
    rw [violation?, if_neg written, none_odd]
    exact if_pos (isEmpty_toList_iff.2 name)

/-- What the search for the first violated rule comes to: a violation, or that the settings are sound. -/
theorem violates_or_sound (c : Config) :
    (∃ v, c.violation? = some v ∧ c.Violates v) ∨ (c.violation? = none ∧ c.Sound) := by
  unfold violation?
  by_cases stem : c.idStem = ""
  · exact .inl ⟨_, if_pos (isEmpty_toList_iff.2 stem), .emptyStem stem⟩
  rw [if_neg fun h => stem (isEmpty_toList_iff.1 h)]
  cases found : c.idStem.toList.find? fun x => !isStemChar x with
  | some x =>
    obtain ⟨odd, before, after, split, plain⟩ := List.find?_eq_some_iff_append.1 found
    refine .inl ⟨_, rfl, .stemCharacter split (fun y hy => ?_) ?_⟩
    · simpa [isStemChar_iff] using plain y hy
    · simpa [← isStemChar_iff] using odd
  | none =>
    have plain : ∀ x ∈ c.idStem.toList, Plain x := fun x hx => by
      simpa [isStemChar_iff] using List.find?_eq_none.1 found x hx
    by_cases name : c.threadName = ""
    · exact .inl ⟨_, if_pos (isEmpty_toList_iff.2 name), .emptyThreadName stem plain name⟩
    · exact .inr ⟨if_neg fun h => name (isEmpty_toList_iff.1 h), stem, plain, name⟩

theorem violation?_eq_some_iff : c.violation? = some v ↔ c.Violates v := by
  refine ⟨fun h => ?_, Violates.found⟩
  rcases c.violates_or_sound with ⟨w, hw, violates⟩ | ⟨hn, -⟩
  · exact Option.some.inj (hw.symm.trans h) ▸ violates
  · cases hn.symm.trans h

theorem violation?_eq_none_iff : c.violation? = none ↔ c.Sound := by
  constructor
  · intro h
    rcases c.violates_or_sound with ⟨w, hw, -⟩ | ⟨-, sound⟩
    · cases hw.symm.trans h
    · exact sound
  · intro sound
    refine Option.eq_none_iff_forall_ne_some.2 fun v hv => ?_
    cases violation?_eq_some_iff.1 hv with
    | emptyStem stem => exact sound.stem stem
    | stemCharacter stem _ odd => exact odd (sound.plain _ (by simp [stem]))
    | emptyThreadName _ _ name => exact sound.name name

theorem validate_eq_error_iff : c.validate = .error v ↔ c.violation? = some v := by
  unfold validate
  cases c.violation? <;> simp

theorem validate_eq_ok_iff : c.validate = .ok () ↔ c.violation? = none := by
  unfold validate
  cases c.violation? <;> simp

/-- Nothing but a NUL keeps a thread from being started under a name. -/
theorem threadPanic?_eq_none_iff : c.threadPanic? = none ↔ Char.ofNat 0 ∉ c.threadName.toList := by
  rw [threadPanic?, Option.map_eq_none_iff, Text.offset?, Text.offsetFrom?_eq_none]

/-- Every id that is issued under sound settings is written in plain characters. -/
theorem Sound.plain_issue (sound : c.Sound) (n : Nat) : ∀ x ∈ (InvocationId.issue c.idStem n).text.toList, Plain x := by
  intro x hx
  rw [InvocationId.toList_issue, List.mem_append, List.mem_cons] at hx
  rcases hx with in_stem | rfl | in_number
  · exact sound.plain x in_stem
  · exact isStemChar_iff.1 (by decide)
  · have digit : (decide ('0' ≤ x) && decide (x ≤ '9')) = true :=
      Nat.isDigit_of_mem_toDigits (by decide) (by decide) in_number
    exact .inr (.inr (.inl (by simpa using digit)))

/-- No issued id has a line break in it. -/
theorem Sound.newline_not_mem_issue (sound : c.Sound) (n : Nat) :
    '\n' ∉ (InvocationId.issue c.idStem n).text.toList := by
  intro h
  exact absurd (isStemChar_iff.2 (sound.plain_issue n _ h)) (by decide)

end Config

/-! ## Starting a bridge -/

/-- How starting a bridge ends. -/
inductive Bridge.Launches {σ : Type} (config : Config) (number : Nat) : Launch σ → Prop
  | refused {v : Config.Violation} (h : config.violation? = some v) : Launches config number (.refused v)
  | panicked {text : String} (valid : config.violation? = none) (nul : Char.ofNat 0 ∈ config.threadName.toList) :
      Launches config number (.panicked text)
  | started (valid : config.violation? = none) (clean : Char.ofNat 0 ∉ config.threadName.toList) :
      Launches config number (.started (fresh config number))

theorem Bridge.launches {σ : Type} (config : Config) (number : Nat) :
    Launches config number (Bridge.spawn (σ := σ) config number) := by
  unfold Bridge.spawn
  cases valid : config.violation? with
  | some v => exact .refused valid
  | none =>
    cases named : config.threadPanic? with
    | some text =>
      refine .panicked valid (not_not.1 fun clean => ?_)
      cases named.symm.trans (Config.threadPanic?_eq_none_iff.2 clean)
    | none => exact .started valid (Config.threadPanic?_eq_none_iff.1 named)

/-- How starting a bridge ends in a session: if none is started, the session is as it was. -/
inductive Session.State.Spawns (st : State) (config : Config) : Answer × State → Prop
  | failed {v : Config.Violation} (h : config.violation? = some v) : Spawns st config (.failed v.failure, st)
  | panicked {text : String} (valid : config.violation? = none) (nul : Char.ofNat 0 ∈ config.threadName.toList) :
      Spawns st config (.panicked text, st)
  | spawned {st' : State} (valid : config.violation? = none) (clean : Char.ofNat 0 ∉ config.threadName.toList) :
      Spawns st config (.spawned, st')

theorem Session.State.spawns (st : State) (name : String) (config : Config) (kind : EngineKind) :
    Spawns st config (st.spawn name config kind) := by
  unfold State.spawn
  have launched := Bridge.launches (σ := Notebook) config st.number
  generalize Bridge.spawn (σ := Notebook) config st.number = launch at launched
  cases launched with
  | refused h => exact .failed h
  | panicked valid nul => exact .panicked valid nul
  | started valid clean =>
    dsimp only
    split <;> exact .spawned valid clean

/-- Valid settings start a bridge to which nothing has happened, and no others do, unless the thread's name has a NUL
in it: then starting the bridge panics, which it does for no other reason. Validation tells the first violated rule,
with which the bridge is refused, and succeeds if no rule is violated. A session in which no bridge is started is as it
was, without a thread, a call of a factory or an id. -/
theorem valid_settings_start_but_for_a_nul {σ : Type} (config : Config) (number : Nat) :
    let launch : Launch σ := Bridge.spawn config number
    let nameable : Prop := Char.ofNat 0 ∉ config.threadName.toList
    (∀ v, config.validate = .error v ↔ config.Violates v) ∧
    (config.validate = .ok () ↔ config.Sound) ∧
    (∀ v, launch = .refused v ↔ config.validate = .error v) ∧
    (∀ b, launch = .started b ↔ config.validate = .ok () ∧ nameable ∧ b = .fresh config number) ∧
    ((∃ text, launch = .panicked text) ↔ config.validate = .ok () ∧ ¬ nameable) ∧
    ∀ (st : Session.State) (name : String) (kind : Session.EngineKind),
      (∀ v, config.validate = .error v →
        st.spawn name config kind = (.failed (.invalidConfiguration v.message), st)) ∧
      (config.validate = .ok () → nameable → (st.spawn name config kind).1 = .spawned) ∧
      (config.validate = .ok () → ¬ nameable → ∃ text, st.spawn name config kind = (.panicked text, st)) := by
  intro launch nameable
  simp only [Config.validate_eq_error_iff, Config.validate_eq_ok_iff]
  have launched : Bridge.Launches config number launch := Bridge.launches config number
  clear_value launch
  refine ⟨fun v => Config.violation?_eq_some_iff, Config.violation?_eq_none_iff, ?_, ?_, ?_, fun st name kind => ?_⟩
  · intro v
    cases launched with
    | refused h => simp [h]
    | panicked valid | started valid => simp [valid]
  · intro later
    cases launched with
    | refused h => simp [h]
    | panicked valid nul => simp [valid, nameable, nul]
    | started valid clean => simp [valid, nameable, clean, eq_comm]
  · cases launched with
    | refused h => simp [h]
    | panicked valid nul => simp [valid, nameable, nul]
    | started valid clean => simp [nameable, clean]
  · have spawned := Session.State.spawns st name config kind
    generalize st.spawn name config kind = r at spawned ⊢
    cases spawned with
    | failed h => simp [h, Config.Violation.failure]
    | panicked valid nul => simp [valid, nameable, nul]
    | spawned valid clean => simp [valid, nameable, clean]

/-- Validation accepts a thread name with a NUL in it, and starting the bridge panics. -/
theorem name_with_nul_is_valid_and_panics :
    let config : Config := { threadName := "a\x00b" }
    config.validate = .ok () ∧
      Bridge.spawn (σ := Session.Notebook) config 1 =
        .panicked "thread name may not contain interior null bytes: NulError(1, [97, 0, 98])" := by
  intro config
  have valid : config.violation? = none := by decide
  have panics : config.threadPanic? =
      some "thread name may not contain interior null bytes: NulError(1, [97, 0, 98])" := by decide +kernel
  refine ⟨Config.validate_eq_ok_iff.2 valid, ?_⟩
  simp only [Bridge.spawn, valid, panics]

end ScriptHost
