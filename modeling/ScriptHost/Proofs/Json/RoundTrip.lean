import ScriptHost.Proofs.Json.Canonical
import ScriptHost.Proofs.Json.Tokens
/-!
Every value is read back from its text.

What is read is the value itself, members as they stood: order and repeated keys survive. The value must
nest within the limit of the reader, and its numbers must be whole numbers of 64 bits.
-/

namespace ScriptHost.Json

open Decimal

variable {v : Json} {xs : List Json} {ms : List (String × Json)} {rest : List Char} {p : Position}
  {fuel depth : Nat}

/-! ## What is written between brackets -/

/-- The items of an array up to its closing bracket, from its first one on or from behind an item. -/
def itemsFrom (first : Bool) : List Json → List Char
  | [] => [']']
  | x :: xs => (if first then [] else [',']) ++ (x.chars ++ itemsFrom false xs)

/-- As `itemsFrom`, for the members of an object. -/
def membersFrom (first : Bool) : List (String × Json) → List Char
  | [] => ['\x7d']
  | (k, v) :: ms => (if first then [] else [',']) ++ (stringChars k ++ ':' :: (v.chars ++ membersFrom false ms))

theorem itemsFrom_eq (xs : List Json) : itemsFrom true xs = itemsChars xs := by
  induction xs with
  | nil => rfl
  | cons x xs ih =>
    cases xs with
    | nil => simp [itemsFrom, itemsChars]
    | cons y ys => simp [itemsChars, ← ih, itemsFrom]

theorem membersFrom_eq (ms : List (String × Json)) : membersFrom true ms = membersChars ms := by
  induction ms with
  | nil => rfl
  | cons m ms ih =>
    cases ms with
    | nil => simp [membersFrom, membersChars]
    | cons n ns => simp [membersChars, ← ih, membersFrom]

theorem ends_itemsFrom (xs : List Json) : Ends (itemsFrom false xs ++ rest) := by
  cases xs with
  | nil => exact ends_bracket
  | cons x xs => exact ends_comma

theorem ends_membersFrom (ms : List (String × Json)) : Ends (membersFrom false ms ++ rest) := by
  cases ms with
  | nil => exact ends_brace
  | cons m ms => exact ends_comma

/-! ## Where a value begins -/

/-- A whole number of 64 bits, signed or not. -/
def IsWord : Json → Prop
  | .int n => -(Nat.pow 2 63 : Nat) ≤ n ∧ n < (Nat.pow 2 64 : Nat)
  | _ => False

/-- Every number is a whole number of 64 bits. -/
abbrev Words (v : Json) : Prop := ∀ x ∈ v.numbers, x.IsWord

theorem isSpace_of_isDigit {c : Char} (h : c.isDigit = true) : Cursor.isSpace c = false := by
  by_contra space
  simp only [Cursor.isSpace, Bool.not_eq_false, Bool.or_eq_true, decide_eq_true_eq] at space
  obtain ((rfl | rfl) | rfl) | rfl := space <;> simp at h

/-- A value begins with no blank and with nothing that could close an array. -/
theorem chars_eq_cons (h : v.Words) :
    ∃ c cs, v.chars = c :: cs ∧ Cursor.isSpace c = false ∧ c ≠ ']' := by
  cases v with
  | null => exact ⟨'n', _, rfl, rfl, by decide⟩
  | bool b =>
    cases b with
    | false => exact ⟨'f', _, rfl, rfl, by decide⟩
    | true => exact ⟨'t', _, rfl, rfl, by decide⟩
  | int n =>
    by_cases negative : n < 0
    · exact ⟨'-', digitsOf n.natAbs, by simp [chars, intChars, negative], rfl, by decide⟩
    · obtain ⟨d, ds, e, digit, -⟩ := digitsOf_eq_cons n.natAbs
      refine ⟨d, ds, by simp [chars, intChars, negative, e], isSpace_of_isDigit digit, ?_⟩
      rintro rfl
      simp at digit
  | real x => exact absurd (h (.real x) (by simp [numbers])) id
  | str s => exact ⟨'\"', _, rfl, rfl, by decide⟩
  | arr xs => exact ⟨'[', _, rfl, rfl, by decide⟩
  | obj ms => exact ⟨'\x7b', _, rfl, rfl, by decide⟩

theorem chars_length_pos (h : v.Words) : 0 < v.chars.length := by
  obtain ⟨c, cs, e, -⟩ := chars_eq_cons h
  simp [e]

theorem itemsFrom_length_pos (first : Bool) (xs : List Json) : 0 < (itemsFrom first xs).length := by
  induction xs generalizing first with
  | nil => simp [itemsFrom]
  | cons x xs ih =>
    have := ih false
    simp only [itemsFrom, List.length_append]
    omega

theorem membersFrom_length_pos (first : Bool) (ms : List (String × Json)) :
    0 < (membersFrom first ms).length := by
  cases ms <;> simp [membersFrom]

/-! ## Between values -/

theorem nextItem_end (first : Bool) : nextItem first ⟨']' :: rest, p⟩ = .ok (false, ⟨']' :: rest, p⟩) := by
  simp [nextItem, Cursor.isSpace]

theorem nextItem_value (first : Bool) (h : v.Words) :
    nextItem first ⟨(if first then [] else [',']) ++ (v.chars ++ rest), p⟩ =
      .ok (true, ⟨v.chars ++ rest, p.behind (if first then [] else [','])⟩) := by
  obtain ⟨c, cs, e, space, close⟩ := chars_eq_cons h
  have comma : Cursor.isSpace ',' = false := rfl
  cases first with
  | true => simp [nextItem, e, space, close]
  | false => simp [nextItem, Cursor.next, e, comma, space, close]

theorem nextMember_end (first : Bool) :
    nextMember first ⟨'\x7d' :: rest, p⟩ = .ok (false, ⟨'\x7d' :: rest, p⟩) := by
  simp [nextMember, Cursor.isSpace]

theorem nextMember_key (first : Bool) (k : String) :
    nextMember first ⟨(if first then [] else [',']) ++ (stringChars k ++ rest), p⟩ =
      .ok (true, ⟨stringChars k ++ rest, p.behind (if first then [] else [','])⟩) := by
  cases first with
  | true => simp [nextMember, stringChars, Cursor.isSpace]
  | false => simp [nextMember, stringChars, Cursor.next, Cursor.isSpace]

theorem readColon_colon : readColon ⟨':' :: rest, p⟩ = .ok ⟨rest, p.after ':'⟩ := by
  simp [readColon, Cursor.next, Cursor.isSpace]

theorem readValue_intChars {n : Int} (h : (Json.int n).IsWord) (hr : Ends rest) :
    readValue (fuel + 1) depth ⟨intChars n ++ rest, p⟩ = .ok (.int n, ⟨rest, p.behind (intChars n)⟩) := by
  obtain ⟨least, most⟩ := h
  simp only [Nat.pow_eq] at least most
  have fits : n.natAbs < Nat.pow 2 64 := by
    simp only [Nat.pow_eq]
    omega
  by_cases negative : n < 0
  · have small : 0 < n.natAbs ∧ n.natAbs ≤ Nat.pow 2 63 := by
      simp only [Nat.pow_eq]
      omega
    have read := readNumber_digitsOf true fits hr (fun _ => small) (p.after '-')
    have abs : -(n.natAbs : Int) = n := by omega
    simp only [if_true, abs] at read
    simpa [intChars, negative, readValue, Cursor.isSpace, Cursor.next] using read
  · have read := readNumber_digitsOf false fits hr (by simp) p
    have abs : (n.natAbs : Int) = n := by omega
    simp only [Bool.false_eq_true, if_false, abs] at read
    obtain ⟨d, ds, e, digit, -⟩ := digitsOf_eq_cons n.natAbs
    have noWord : d ≠ 'n' ∧ d ≠ 't' ∧ d ≠ 'f' ∧ d ≠ '-' := by
      refine ⟨?_, ?_, ?_, ?_⟩ <;> (rintro rfl; simp at digit)
    simpa [intChars, negative, e, readValue, isSpace_of_isDigit digit, digit, noWord] using read

theorem readString_stringChars (k : String) (rest : List Char) (p : Position) :
    readString (Cursor.next ⟨stringChars k ++ rest, p⟩) = .ok (k, ⟨rest, p.behind (stringChars k)⟩) := by
  simpa [stringChars, Cursor.next] using readString_escaped k rest (p.after '\"')

theorem readValue_stringChars (s : String) :
    readValue (fuel + 1) depth ⟨stringChars s ++ rest, p⟩ = .ok (.str s, ⟨rest, p.behind (stringChars s)⟩) := by
  have read := readString_stringChars s rest p
  simp [stringChars] at read
  simp [stringChars, readValue, Cursor.isSpace, read, Except.map]

/-! ## Values -/

/-
The recursion is on the value. Its text bounds the calls: every call but the last of a list takes one
character at least, and what is left is as long as the text that is left.
-/

mutual

/-- A value is read back from the front of a text, if there are calls enough for its characters. -/
theorem readValue_chars (v : Json) (fuel depth : Nat) (rest : List Char) (p : Position)
    (hf : v.chars.length ≤ fuel) (hd : v.nesting < depth) (hw : v.Words) (hr : Ends rest) :
    readValue fuel depth ⟨v.chars ++ rest, p⟩ = .ok (v, ⟨rest, p.behind v.chars⟩) := by
  obtain _ | fuel := fuel
  · obtain ⟨c, cs, e, -⟩ := chars_eq_cons hw
    simp [e] at hf
  cases v with
  | null => simp [chars, readValue, readWord, Cursor.isSpace, Cursor.next, Except.map]
  | bool b => cases b <;> simp [chars, readValue, readWord, Cursor.isSpace, Cursor.next, Except.map]
  | int n => exact readValue_intChars (hw _ (by simp [numbers])) hr
  | real x => exact absurd (hw (.real x) (by simp [numbers])) id
  | str s => exact readValue_stringChars s
  | arr xs =>
    simp only [chars, nesting, ← itemsFrom_eq, List.length_cons] at hf hd ⊢
    have read := readItems_chars xs fuel (depth - 1) [] rest (p.after '[') (by simpa using hf) (by omega) hw
    have room : ¬ depth ≤ 1 := by omega
    simpa [readValue, Cursor.isSpace, Cursor.next, room] using read
  | obj ms =>
    simp only [chars, nesting, ← membersFrom_eq, List.length_cons] at hf hd ⊢
    have read := readMembers_chars ms fuel (depth - 1) [] rest (p.after '\x7b') (by simpa using hf) (by omega) hw
    have room : ¬ depth ≤ 1 := by omega
    simpa [readValue, Cursor.isSpace, Cursor.next, room] using read

theorem readItems_chars (xs : List Json) (fuel depth : Nat) (taken : List Json) (rest : List Char) (p : Position)
    (hf : (itemsFrom taken.isEmpty xs).length ≤ fuel) (hd : itemsNesting xs < depth)
    (hw : ∀ x ∈ itemsNumbers xs, x.IsWord) :
    readItems fuel depth taken ⟨itemsFrom taken.isEmpty xs ++ rest, p⟩ =
      .ok (.arr (taken.reverse ++ xs), ⟨rest, p.behind (itemsFrom taken.isEmpty xs)⟩) := by
  cases xs with
  | nil =>
    obtain _ | fuel := fuel
    · simp [itemsFrom] at hf
    · simp [itemsFrom, readItems, nextItem_end, Cursor.next]
  | cons x xs =>
    simp only [itemsNumbers, List.forall_mem_append] at hw
    simp only [itemsNesting, Nat.max_lt] at hd
    have written := chars_length_pos hw.1
    have closed := itemsFrom_length_pos false xs
    simp only [itemsFrom, List.length_append] at hf
    obtain _ | fuel := fuel
    · omega
    -- A comma or a bracket follows, so that a number ends where it was written to end.
    have item := readValue_chars x fuel depth (itemsFrom false xs ++ rest)
      (p.behind (if taken.isEmpty then [] else [','])) (by omega) hd.1 hw.1 (ends_itemsFrom xs)
    have items := readItems_chars xs fuel depth (x :: taken) rest
      ((p.behind (if taken.isEmpty then [] else [','])).behind x.chars)
      (by simp only [List.isEmpty_cons]; omega) hd.2 hw.2
    simp only [itemsFrom, List.append_assoc, readItems, nextItem_value _ hw.1, item]
    simpa using items

theorem readMembers_chars (ms : List (String × Json)) (fuel depth : Nat) (taken : List (String × Json))
    (rest : List Char) (p : Position)
    (hf : (membersFrom taken.isEmpty ms).length ≤ fuel) (hd : membersNesting ms < depth)
    (hw : ∀ x ∈ membersNumbers ms, x.IsWord) :
    readMembers fuel depth taken ⟨membersFrom taken.isEmpty ms ++ rest, p⟩ =
      .ok (.obj (taken.reverse ++ ms), ⟨rest, p.behind (membersFrom taken.isEmpty ms)⟩) := by
  cases ms with
  | nil =>
    obtain _ | fuel := fuel
    · simp [membersFrom] at hf
    · simp [membersFrom, readMembers, nextMember_end, Cursor.next]
  | cons m ms =>
    obtain ⟨k, v⟩ := m
    simp only [membersNumbers, List.forall_mem_append] at hw
    simp only [membersNesting, Nat.max_lt] at hd
    have closed := membersFrom_length_pos false ms
    simp only [membersFrom, List.length_append, List.length_cons] at hf
    obtain _ | fuel := fuel
    · omega
    have key := readString_stringChars k (':' :: (v.chars ++ (membersFrom false ms ++ rest)))
      (p.behind (if taken.isEmpty then [] else [',']))
    have value := readValue_chars v fuel depth (membersFrom false ms ++ rest)
      (((p.behind (if taken.isEmpty then [] else [','])).behind (stringChars k)).after ':')
      (by omega) hd.1 hw.1 (ends_membersFrom ms)
    have members := readMembers_chars ms fuel depth ((k, v) :: taken) rest
      ((((p.behind (if taken.isEmpty then [] else [','])).behind (stringChars k)).after ':').behind v.chars)
      (by simp only [List.isEmpty_cons]; omega) hd.2 hw.2
    simp only [membersFrom, List.append_assoc, List.cons_append, readMembers, nextMember_key, key,
      readColon_colon, value]
    simpa using members

end

/-! ## Whole texts -/

/-- The text of a value is read to its end. -/
theorem readPrefix_text (hd : v.nesting < depthLimit) (hw : v.Words) :
    readPrefix v.text = .ok (v, ⟨[], Position.start.behind v.chars⟩) := by
  have read := readValue_chars v (2 * v.chars.length + 2) depthLimit [] .start (by omega) hd hw ends_nil
  simpa [readPrefix, readAt, Cursor.fuel, Cursor.ofString, text] using read

theorem readWritten_iff {s : String} :
    readWritten s = .ok v ↔ ∃ c, readPrefix s = .ok (v, c) ∧ readEnd c = .ok () := by
  simp only [readWritten, bind, Except.bind, pure, Except.pure]
  cases readPrefix s with
  | error e => simp
  | ok r =>
    obtain ⟨w, c⟩ := r
    cases ended : readEnd c with
    | error e => simp_all
    | ok => simp_all

theorem readWritten_text (hd : v.nesting < depthLimit) (hw : v.Words) : readWritten v.text = .ok v :=
  readWritten_iff.2 ⟨_, readPrefix_text hd hw, rfl⟩

end ScriptHost.Json
