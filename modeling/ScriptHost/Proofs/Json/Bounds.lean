import ScriptHost.Proofs.Json.RoundTrip
/-!
What the reader lets through.

Every value that is read nests below the limit, and its whole numbers are of 64 bits: anything longer has
become a double.
-/

namespace ScriptHost.Json

open Decimal

variable {v : Json} {c c' : Cursor} {fuel depth : Nat}

/-! ## Numbers -/

theorem takeDigits_lt {n : Nat} (h : n < Nat.pow 2 64) (count : Nat) (cs : List Char) :
    (takeDigits n count cs).1 < Nat.pow 2 64 := by
  induction cs generalizing n count with
  | nil => exact h
  | cons c cs ih =>
    unfold takeDigits
    split
    · rename_i next
      exact ih (by simpa using (Bool.and_eq_true_iff.1 next).2) _
    · exact h

/-- Whatever the reading answers is a double. -/
def YieldsReal (r : Reading Json) : Prop := ∀ v c, r = .ok (v, c) → ∃ x, v = .real x

theorem yieldsReal_error (e : ReadError) : YieldsReal (.error e) := by
  simp [YieldsReal]

theorem yieldsReal_ok (x : Binary64) (c : Cursor) : YieldsReal (.ok (.real x, c)) := by
  rintro v c' ⟨⟩
  exact ⟨x, rfl⟩

theorem yieldsReal_realOf (negative : Bool) (n : Nat) (k : Int) (c : Cursor) :
    YieldsReal (realOf negative n k c) := by
  unfold realOf
  split
  · exact yieldsReal_error _
  · exact yieldsReal_ok _ _

theorem yieldsReal_exponentPart (negative : Bool) (n : Nat) (k : Int) (c : Cursor) :
    YieldsReal (exponentPart negative n k c) := by
  unfold exponentPart
  extract_lets c
  split
  split
  · exact yieldsReal_error _
  · split
    · exact yieldsReal_error _
    · split
      extract_lets c
      split
      · split
        · exact yieldsReal_error _
        · exact yieldsReal_ok _ _
      · exact yieldsReal_realOf _ _ _ _

theorem yieldsReal_exponentOrEnd (negative : Bool) (n : Nat) (k : Int) (c : Cursor) :
    YieldsReal (exponentOrEnd negative n k c) := by
  unfold exponentOrEnd
  split
  · exact yieldsReal_exponentPart negative n k c
  · exact yieldsReal_exponentPart negative n k c
  · exact yieldsReal_realOf negative n k c

theorem yieldsReal_fractionPart (negative : Bool) (n : Nat) (k : Int) (c : Cursor) :
    YieldsReal (fractionPart negative n k c) := by
  simp only [fractionPart]
  split
  · exact yieldsReal_error _
  · exact yieldsReal_exponentOrEnd _ _ _ _

/-- A number is a double or a whole number of 64 bits. -/
theorem readNumber_sound {negative : Bool} (h : readNumber negative c = .ok (v, c')) :
    (∃ x, v = .real x) ∨ v.IsWord := by
  unfold readNumber at h
  split at h
  · simp at h
  · split at h
    · simp at h
    · split at h
      · simp at h
      · have most := takeDigits_lt (n := 0) (by decide) 0 c.rest
        split at h
        rename_i n count taken
        rw [taken] at most
        extract_lets more c at h
        split at h
        · exact .inl (yieldsReal_fractionPart _ _ _ _ v c' h)
        · exact .inl (yieldsReal_exponentPart _ _ _ _ v c' h)
        · exact .inl (yieldsReal_exponentPart _ _ _ _ v c' h)
        · split at h
          · exact .inl (yieldsReal_realOf _ _ _ _ v c' h)
          · split at h
            · simp only [Except.ok.injEq, Prod.mk.injEq] at h
              obtain ⟨rfl, -⟩ := h
              exact .inr ⟨by omega, Int.ofNat_lt.2 most⟩
            · split at h
              · exact .inl (yieldsReal_ok _ _ v c' h)
              · rename_i least
                simp only [Except.ok.injEq, Prod.mk.injEq] at h
                obtain ⟨rfl, -⟩ := h
                simp only [not_or, Nat.not_lt] at least
                exact .inr ⟨by omega, by omega⟩

/-! ## Values -/

/-- Fewer than `depth` levels, and no whole number beyond 64 bits. -/
structure Bounded (depth : Nat) (v : Json) : Prop where
  nesting : v.nesting < depth
  whole : ∀ n, .int n ∈ v.numbers → (Json.int n).IsWord

theorem bounded_arr {xs : List Json} (hd : 0 < depth) (h : ∀ x ∈ xs, x.Bounded depth) :
    (Json.arr xs).Bounded (depth + 1) := by
  constructor
  · have items : itemsNesting xs ≤ depth - 1 :=
      itemsNesting_le.2 fun x hx => Nat.le_sub_one_of_lt (h x hx).nesting
    simp only [Json.nesting]
    omega
  · intro n hn
    obtain ⟨x, hx, hn⟩ := mem_itemsNumbers.1 hn
    exact (h x hx).whole n hn

theorem bounded_obj {ms : List (String × Json)} (hd : 0 < depth) (h : ∀ m ∈ ms, m.2.Bounded depth) :
    (Json.obj ms).Bounded (depth + 1) := by
  constructor
  · have members : membersNesting ms ≤ depth - 1 :=
      membersNesting_le.2 fun m hm => Nat.le_sub_one_of_lt (h m hm).nesting
    simp only [Json.nesting]
    omega
  · intro n hn
    obtain ⟨m, hm, hn⟩ := mem_membersNumbers.1 hn
    exact (h m hm).whole n hn

theorem bounded_of_number (hd : 0 < depth) (h : (∃ x, v = .real x) ∨ v.IsWord) : v.Bounded depth := by
  rcases h with ⟨x, rfl⟩ | h
  · exact ⟨hd, by simp [numbers]⟩
  · cases v with
    | int n => exact ⟨hd, by simpa [numbers] using h⟩
    | null | bool | real | str | arr | obj => exact absurd h id

theorem ok_of_map_eq_ok {α : Type} {f : α → Json × Cursor} {r : Except ReadError α}
    (h : r.map f = .ok (v, c)) : ∃ a, (f a).1 = v := by
  cases r with
  | error e => simp [Except.map] at h
  | ok a => exact ⟨a, by simp_all [Except.map]⟩

/-- What a value can have been read as. -/
inductive Found (fuel depth : Nat) (v : Json) (c' : Cursor) : Prop where
  | null (h : v = .null)
  | bool (b : Bool) (h : v = .bool b)
  | str (s : String) (h : v = .str s)
  | number (negative : Bool) (c : Cursor) (h : readNumber negative c = .ok (v, c'))
  | items (c : Cursor) (room : 1 < depth) (h : readItems fuel (depth - 1) [] c = .ok (v, c'))
  | members (c : Cursor) (room : 1 < depth) (h : readMembers fuel (depth - 1) [] c = .ok (v, c'))

theorem found_of_readValue (h : readValue (fuel + 1) depth c = .ok (v, c')) : Found fuel depth v c' := by
  unfold readValue at h
  extract_lets c at h
  split at h
  · simp at h
  · rename_i x cs begins
    -- One condition at a time: a split would simplify all the rest of the chain each time.
    by_cases null : x = 'n'
    · rw [if_pos null] at h
      obtain ⟨_, e⟩ := ok_of_map_eq_ok h
      exact .null e.symm
    rw [if_neg null] at h
    by_cases true : x = 't'
    · rw [if_pos true] at h
      obtain ⟨_, e⟩ := ok_of_map_eq_ok h
      exact .bool _ e.symm
    rw [if_neg true] at h
    by_cases false : x = 'f'
    · rw [if_pos false] at h
      obtain ⟨_, e⟩ := ok_of_map_eq_ok h
      exact .bool _ e.symm
    rw [if_neg false] at h
    by_cases minus : x = '-'
    · rw [if_pos minus] at h
      exact .number _ _ h
    rw [if_neg minus] at h
    by_cases digit : x.isDigit
    · rw [if_pos digit] at h
      exact .number _ _ h
    rw [if_neg digit] at h
    by_cases quote : x = '\"'
    · rw [if_pos quote] at h
      obtain ⟨_, e⟩ := ok_of_map_eq_ok h
      exact .str _ e.symm
    rw [if_neg quote] at h
    split at h
    · split at h
      · simp at h
      · exact .items _ (by omega) h
    · split at h
      · split at h
        · simp at h
        · exact .members _ (by omega) h
      · simp at h

mutual

theorem readValue_sound (fuel depth : Nat) (c : Cursor) {v : Json} {c' : Cursor}
    (hd : 0 < depth) (h : readValue fuel depth c = .ok (v, c')) : v.Bounded depth := by
  match fuel with
  | 0 => simp [readValue] at h
  | fuel + 1 =>
    have below : depth - 1 + 1 = depth := Nat.sub_add_cancel hd
    cases found_of_readValue h with
    | null e | bool _ e | str _ e =>
      subst e
      exact ⟨hd, by simp [numbers]⟩
    | number _ _ number => exact bounded_of_number hd (readNumber_sound number)
    | items _ room items => exact below ▸ readItems_sound fuel (depth - 1) [] _ (by omega) (by simp) items
    | members _ room members =>
      exact below ▸ readMembers_sound fuel (depth - 1) [] _ (by omega) (by simp) members

theorem readItems_sound (fuel depth : Nat) (taken : List Json) (c : Cursor) {v : Json} {c' : Cursor}
    (hd : 0 < depth) (ht : ∀ x ∈ taken, x.Bounded depth) (h : readItems fuel depth taken c = .ok (v, c')) :
    v.Bounded (depth + 1) := by
  match fuel with
  | 0 => simp [readItems] at h
  | fuel + 1 =>
    simp only [readItems] at h
    split at h
    · simp at h
    · simp only [Except.ok.injEq, Prod.mk.injEq] at h
      obtain ⟨rfl, -⟩ := h
      exact bounded_arr hd (by simpa using ht)
    · split at h
      · simp at h
      · rename_i item
        have bounded := readValue_sound fuel depth _ hd item
        exact readItems_sound fuel depth _ _ hd (List.forall_mem_cons.2 ⟨bounded, ht⟩) h

theorem readMembers_sound (fuel depth : Nat) (taken : List (String × Json)) (c : Cursor) {v : Json}
    {c' : Cursor} (hd : 0 < depth) (ht : ∀ m ∈ taken, m.2.Bounded depth)
    (h : readMembers fuel depth taken c = .ok (v, c')) : v.Bounded (depth + 1) := by
  match fuel with
  | 0 => simp [readMembers] at h
  | fuel + 1 =>
    simp only [readMembers] at h
    split at h
    · simp at h
    · simp only [Except.ok.injEq, Prod.mk.injEq] at h
      obtain ⟨rfl, -⟩ := h
      exact bounded_obj hd (by simpa using ht)
    · split at h
      · simp at h
      · split at h
        · simp at h
        · split at h
          · simp at h
          · rename_i value
            have bounded := readValue_sound fuel depth _ hd value
            exact readMembers_sound fuel depth _ _ hd (List.forall_mem_cons.2 ⟨bounded, ht⟩) h

end

/-- What is read from a text nests below the limit and has no whole number beyond 64 bits. -/
theorem readPrefix_sound {s : String} (h : readPrefix s = .ok (v, c)) : v.Bounded depthLimit :=
  readValue_sound _ depthLimit _ (by decide) h

end ScriptHost.Json
