import ScriptHost.Wire.Message
import Mathlib.Logic.Function.Basic
import Std.Data.String.ToNat
/-!
The texts of ids: a stem, a hyphen and a number.
-/

namespace ScriptHost.InvocationId

theorem text_injective : Function.Injective text := fun _ _ h => congrArg mk h

/-- No two numbers give the same id. -/
theorem issue_injective (stem : String) : Function.Injective (issue stem) := by
  intro m n h
  have texts : stem ++ "-" ++ m.repr = stem ++ "-" ++ n.repr := by
    simpa [issue] using h
  exact Nat.repr_inj.1 (String.append_right_inj _ |>.1 texts)

theorem toList_issue (stem : String) (n : Nat) :
    (issue stem n).text.toList = stem.toList ++ '-' :: Nat.toDigits 10 n := by
  have text : (issue stem n).text = stem ++ "-" ++ n.repr := rfl
  simp [text]

theorem hyphen_not_mem_digits (n : Nat) : '-' ∉ Nat.toDigits 10 n := by
  intro h
  have digit := Nat.isDigit_of_mem_toDigits (by decide) (by decide) h
  exact absurd digit (by decide)

/-- What is behind the last occurrence of an element ends where the lists part. -/
theorem tail_unique {α : Type} {c : α} {xs xs' ys ys' : List α} (hy : c ∉ ys) (hy' : c ∉ ys')
    (h : xs ++ c :: ys = xs' ++ c :: ys') : xs = xs' ∧ ys = ys' := by
  rcases List.append_eq_append_iff.1 h with ⟨as, hx, hc⟩ | ⟨as, hx, hc⟩
  · cases as with
    | nil => exact ⟨by simpa using hx.symm, by simpa using hc⟩
    | cons a as =>
      obtain ⟨-, rfl⟩ := List.cons.inj hc
      exact absurd (List.mem_append_right as List.mem_cons_self) hy
  · cases as with
    | nil => exact ⟨by simpa using hx, by simpa using hc.symm⟩
    | cons a as =>
      obtain ⟨-, rfl⟩ := List.cons.inj hc
      exact absurd (List.mem_append_right as List.mem_cons_self) hy'

/-- An id tells its stem and its number, whatever hyphens and digits there are in the stem: digits follow
its last hyphen. -/
theorem issue_eq_iff {stem stem' : String} {m n : Nat} : issue stem m = issue stem' n ↔ stem = stem' ∧ m = n := by
  constructor
  · intro h
    have lists : stem.toList ++ '-' :: Nat.toDigits 10 m = stem'.toList ++ '-' :: Nat.toDigits 10 n := by
      rw [← toList_issue, ← toList_issue, h]
    obtain ⟨stems, digits⟩ := tail_unique (hyphen_not_mem_digits m) (hyphen_not_mem_digits n) lists
    obtain rfl := String.toList_inj.1 stems
    exact ⟨rfl, issue_injective stem h⟩
  · rintro ⟨rfl, rfl⟩
    rfl

end ScriptHost.InvocationId
