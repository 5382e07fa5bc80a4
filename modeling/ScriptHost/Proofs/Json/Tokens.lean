import ScriptHost.Json.Printer
import ScriptHost.Json.Reader
import Mathlib.Data.List.Basic
/-!
Strings and whole numbers read back.

Each reader, started where a token was written, answers what was written and stops behind it, whatever
follows. Only a number asks something of what follows: it must not look like more of the number.
-/

namespace ScriptHost.Json

open Decimal

variable {cs ds rest : List Char} {p : Position} {n : Nat}

/-! ## Positions -/

namespace Position

@[simp] theorem behind_nil : p.behind [] = p := rfl

@[simp] theorem behind_cons (c : Char) : p.behind (c :: cs) = (p.after c).behind cs := rfl

@[simp] theorem behind_append : p.behind (cs ++ ds) = (p.behind cs).behind ds := by
  simp [behind]

end Position

theorem Cursor.drop_append (cs rest : List Char) (p : Position) :
    Cursor.drop cs.length ⟨cs ++ rest, p⟩ = ⟨rest, p.behind cs⟩ := by
  induction cs generalizing p with
  | nil => rfl
  | cons c cs ih => exact ih (p.after c)

@[simp] theorem Cursor.skipSpace_cons {c : Char} (h : isSpace c = false) :
    skipSpace ⟨c :: cs, p⟩ = ⟨c :: cs, p⟩ := by
  simp [skipSpace, skipSpace.go, h]

/-! ## Strings -/

theorem hexDigit?_digitChar : ∀ d < 16, hexDigit? (Nat.digitChar d) = some d := by
  decide

/-- Four characters are four bytes at least, so the code unit is what the digits say. -/
theorem codeUnit_of_fourDigits (h : fourDigits? cs = some n) : codeUnit cs p = .ok n := by
  obtain _ | ⟨a, _ | ⟨b, _ | ⟨c, _ | ⟨d, cs⟩⟩⟩⟩ := cs
  · simp [fourDigits?] at h
  · simp [fourDigits?] at h
  · simp [fourDigits?] at h
  · simp [fourDigits?] at h
  · have bytes : ¬ a.utf8Size + b.utf8Size + c.utf8Size + d.utf8Size < 4 := by
      have := a.utf8Size_pos
      have := b.utf8Size_pos
      have := c.utf8Size_pos
      have := d.utf8Size_pos
      omega
    simp [codeUnit, h, bytes]

theorem codeUnit_small (h : n < 32) :
    codeUnit ('0' :: '0' :: Nat.digitChar (n / 16) :: Nat.digitChar (n % 16) :: rest) p = .ok n := by
  apply codeUnit_of_fourDigits
  have high := hexDigit?_digitChar (n / 16) (by omega)
  have low := hexDigit?_digitChar (n % 16) (by omega)
  have zero : hexDigit? '0' = some 0 := rfl
  simp only [fourDigits?, high, low, zero, Option.pure_def, Option.bind_eq_bind, Option.bind_some,
    Option.some.injEq]
  omega

theorem escape_control {c : Char} (h : c < ' ') :
    escape ('u' :: '0' :: '0' :: Nat.digitChar (c.toNat / 16) :: Nat.digitChar (c.toNat % 16) :: rest) p =
      .ok (c, 5) := by
  have small : c.toNat < 32 := h
  have high : ¬ 0xDC00 ≤ c.toNat := by omega
  have low : ¬ 0xD800 ≤ c.toNat := by omega
  simp [escape, codeUnit_small small, high, low, bind, Except.bind, pure, Except.pure]

theorem stringFrom_escapedChar (c : Char) (taken rest : List Char) (p : Position) :
    stringFrom taken 0 (escapedChar c ++ rest) p =
      stringFrom (c :: taken) 0 rest (p.behind (escapedChar c)) := by
  unfold escapedChar
  by_cases named : c = '\"' ∨ c = '\\' ∨ c = '\n' ∨ c = '\r' ∨ c = '\t' ∨ c = '\x08' ∨ c = '\x0c'
  · rcases named with rfl | rfl | rfl | rfl | rfl | rfl | rfl <;> simp [stringFrom, escape]
  · simp only [not_or] at named
    obtain ⟨quote, slash, n, r, t, b, f⟩ := named
    by_cases control : c < ' '
    · simp [quote, slash, n, r, t, b, f, control, stringFrom, escape_control control]
    · simp [quote, slash, n, r, t, b, f, control, stringFrom]

theorem stringFrom_escaped (cs taken rest : List Char) (p : Position) :
    stringFrom taken 0 (cs.flatMap escapedChar ++ '\"' :: rest) p =
      .ok (String.ofList (taken.reverse ++ cs), ⟨rest, p.behind (cs.flatMap escapedChar ++ ['\"'])⟩) := by
  induction cs generalizing taken p with
  | nil => simp [stringFrom]
  | cons c cs ih =>
    rw [List.flatMap_cons, List.append_assoc, stringFrom_escapedChar, ih]
    simp

theorem readString_escaped (s : String) (rest : List Char) (p : Position) :
    readString ⟨s.toList.flatMap escapedChar ++ '\"' :: rest, p⟩ =
      .ok (s, ⟨rest, p.behind (s.toList.flatMap escapedChar ++ ['\"'])⟩) := by
  simpa [readString] using stringFrom_escaped s.toList [] rest p

/-! ## Whole numbers -/

/-- Nothing that could go on a number follows. -/
def Ends (rest : List Char) : Prop :=
  ∀ x ∈ rest.head?, x.isDigit = false ∧ x ≠ '.' ∧ x ≠ 'e' ∧ x ≠ 'E'

theorem ends_nil : Ends [] := by
  simp [Ends]

theorem ends_comma : Ends (',' :: rest) := by
  simp [Ends]

theorem ends_bracket : Ends (']' :: rest) := by
  simp [Ends]

theorem ends_brace : Ends ('\x7d' :: rest) := by
  simp [Ends]

theorem le_ofDigitChars (ds : List Char) (n : Nat) : n ≤ Nat.ofDigitChars 10 ds n := by
  rw [Nat.ofDigitChars_eq_ofDigitChars_zero]
  exact Nat.le_add_right_of_le (Nat.le_mul_of_pos_left n (Nat.pow_pos (by decide)))

/-- All digits are taken while the number that they make stays below the limit. -/
theorem takeDigits_append (hd : ∀ d ∈ ds, d.isDigit = true) (hr : Ends rest) (count : Nat)
    (h : Nat.ofDigitChars 10 ds n < Nat.pow 2 64) :
    takeDigits n count (ds ++ rest) = (Nat.ofDigitChars 10 ds n, count + ds.length) := by
  induction ds generalizing n count with
  | nil =>
    cases rest with
    | nil => simp [takeDigits]
    | cons x rest => simp [takeDigits, (hr x rfl).1]
  | cons d ds ih =>
    obtain ⟨digit, hd⟩ := List.forall_mem_cons.1 hd
    have shift : Nat.ofDigitChars 10 (d :: ds) n = Nat.ofDigitChars 10 ds (n * 10 + digitValue d) := by
      rw [Nat.ofDigitChars_cons, Nat.mul_comm, digitValue]
    rw [shift] at h ⊢
    have fits := Nat.lt_of_le_of_lt (le_ofDigitChars ds _) h
    simp only [List.cons_append, takeDigits, digit, fits, decide_true, Bool.and_self, if_true]
    rw [ih hd (count + 1) h, List.length_cons, Nat.add_assoc, Nat.add_comm 1]

theorem digitsOf_isDigit (n : Nat) : ∀ d ∈ digitsOf n, d.isDigit = true := fun _ =>
  Nat.isDigit_of_mem_toDigits (by decide) (by decide)

/-- Only zero is written with a zero in front. -/
theorem eq_zero_of_head (h : (digitsOf n).head? = some '0') : n = 0 := by
  induction n using Nat.strongRecOn with
  | ind n ih =>
    rw [digitsOf, Nat.toDigits_eq_if (by decide)] at h
    split at h
    · simpa using h
    · have front : (digitsOf (n / 10)).head? = some '0' := by
        rwa [List.head?_append_of_ne_nil _ Nat.toDigits_ne_nil] at h
      have := ih (n / 10) (by omega) front
      omega

theorem digitsOf_eq_cons (n : Nat) : ∃ d ds, digitsOf n = d :: ds ∧ d.isDigit = true ∧ (d = '0' → ds = []) := by
  cases e : digitsOf n with
  | nil => exact absurd e Nat.toDigits_ne_nil
  | cons d ds =>
    refine ⟨d, ds, rfl, digitsOf_isDigit n d (by simp [e]), ?_⟩
    rintro rfl
    have zero : n = 0 := eq_zero_of_head (by simp [e])
    simpa [zero, digitsOf] using e.symm

/-- A number is read from its digits. Behind a minus sign it must be within range, and `-0` is no whole
number. -/
theorem readNumber_digitsOf (negative : Bool) (h : n < Nat.pow 2 64) (hr : Ends rest)
    (hn : negative = true → 0 < n ∧ n ≤ Nat.pow 2 63) (p : Position) :
    readNumber negative ⟨digitsOf n ++ rest, p⟩ =
      .ok (.int (if negative then -n else n), ⟨rest, p.behind (digitsOf n)⟩) := by
  have taken : takeDigits 0 0 (digitsOf n ++ rest) = (n, (digitsOf n).length) := by
    have value : Nat.ofDigitChars 10 (digitsOf n) 0 = n := Nat.ofDigitChars_ten_toDigits
    rw [takeDigits_append (digitsOf_isDigit n) hr 0 (by rwa [value]), value, Nat.zero_add]
  have more : digitCount rest = 0 := by
    cases rest with
    | nil => rfl
    | cons x rest => simp [digitCount, (hr x rfl).1]
  have behind := Cursor.drop_append (digitsOf n) rest p
  obtain ⟨d, ds, e, digit, zero⟩ := digitsOf_eq_cons n
  -- A zero in front stands alone, and what follows is no digit.
  have front : ¬ (d = '0' ∧ (ds ++ rest).head?.any Char.isDigit = true) := by
    rintro ⟨hd, next⟩
    rw [zero hd] at next
    cases rest with
    | nil => simp at next
    | cons x rest => simp [(hr x rfl).1] at next
  have left : (d :: (ds ++ rest)).drop (d :: ds).length = rest := List.drop_left
  rw [e] at taken behind ⊢
  simp only [List.cons_append] at taken behind ⊢
  simp only [readNumber, digit, front, taken, left, more, behind, Bool.not_true, Bool.false_eq_true,
    if_false, Nat.add_zero]
  split
  · exact absurd rfl (hr '.' rfl).2.1
  · exact absurd rfl (hr 'e' rfl).2.2.1
  · exact absurd rfl (hr 'E' rfl).2.2.2
  · cases negative with
    | false => simp
    | true =>
      obtain ⟨positive, least⟩ := hn rfl
      simpa [Nat.pos_iff_ne_zero.1 positive] using least

end ScriptHost.Json
