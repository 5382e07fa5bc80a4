/-!
How the numbers of ids are shown.

Ids are numbered across all sessions of a process, and what is spelt out in a session's steps names none
of them. What a session says is shown as if it were the first one: its ids count from one.
-/

namespace ScriptHost.Session

/-- How many ids of a session are told from other numbers. -/
def reach : Nat := 1000000

/-- Digits, last first, as they are shown where the first id has the number `first`. -/
def shownDigits (first : Nat) (digits : List Char) : List Char :=
  let written := digits.reverse
  if digits.length = (Nat.toDigits 10 first).length then
    let n := (String.ofList written).toNat?.getD 0
    if first ≤ n ∧ n < first + reach then Nat.toDigits 10 (n - first + 1) else written
  else written

/-- What is shown, last first, and the digits read just before, after one more character. -/
def showNext (first : Nat) (read : List Char × List Char) (c : Char) : List Char × List Char :=
  if c.isDigit then (read.1, c :: read.2)
  else (c :: ((shownDigits first read.2).reverse ++ read.1), [])

/-- A text as it is shown where the first id has the number `first`. -/
def shown (first : Nat) (s : String) : String :=
  let read := s.toList.foldl (showNext first) ([], [])
  String.ofList ((shownDigits first read.2).reverse ++ read.1).reverse

end ScriptHost.Session
