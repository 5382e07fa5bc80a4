import ScriptHost.Decimal.Binary64
/-!
The shortest decimal text of a double.

`Binary64.shortest` gives the fewest decimal digits that read back as the same double and, of those,
the ones nearest to its exact value. `Layout` says how such digits are laid out: which decimals are
written positionally and how an exponent part looks.
-/

namespace ScriptHost.Decimal

/-- A decimal `digits · 10 ^ exponent`. -/
structure Scaled where
  digits : Nat
  exponent : Int
deriving DecidableEq, Repr

/-- The decimal without trailing zeros; the number bounds how many are taken away. -/
def Scaled.strip : Nat → Scaled → Scaled
  | 0, d => d
  | n + 1, d => if d.digits % 10 = 0 ∧ d.digits ≠ 0 then strip n ⟨d.digits / 10, d.exponent + 1⟩ else d

/-- The exact value of a positive double and the ends of the interval of numbers that round to it,
all over one denominator. -/
structure Interval where
  low : Nat
  value : Nat
  high : Nat
  denominator : Nat
  closed : Bool

/-- The interval of numbers that read back as the double's absolute value: half a unit to either
side, a quarter below a power of two; its ends belong to it if the significand is even. -/
def Binary64.interval (x : Binary64) : Interval :=
  let m := x.significand
  let below := if x.fraction = 0 ∧ 1 < x.exponentField then 1 else 2
  let e := x.exponent - 2
  let scale := Nat.pow 2 e.toNat
  ⟨(4 * m - below) * scale, 4 * m * scale, (4 * m + 2) * scale, Nat.pow 2 (-e).toNat, m % 2 == 0⟩

/-- Whether `n · 10 ^ k` lies in the interval. -/
def Interval.holds (i : Interval) (n : Nat) (k : Int) : Bool :=
  let p := n * Nat.pow 10 k.toNat * i.denominator
  let scale := Nat.pow 10 (-k).toNat
  if i.closed then i.low * scale ≤ p && p ≤ i.high * scale
  else i.low * scale < p && p < i.high * scale

/-- Which of two decimals that are equally near to a value is taken. -/
inductive Tie where
  /-- the one with the even last digit -/
  | toEven
  /-- the greater one -/
  | up
deriving DecidableEq, Repr

/-- Whether a value in the middle between `n` and `n + 1` goes to the latter. -/
def Tie.goesUp : Tie → Nat → Bool
  | toEven, n => n % 2 == 1
  | up, _ => true

/-- The decimal with `unit = 10 ^ k` next to the value that reads back, if there is one. -/
def Interval.onGrid? (i : Interval) (t : Tie) (k : Int) : Option Scaled :=
  let num := i.value * Nat.pow 10 (-k).toNat
  let den := i.denominator * Nat.pow 10 k.toNat
  let n := num / den
  let down := i.holds n k && n != 0
  let up := i.holds (n + 1) k
  let isUpper := den < 2 * (num % den) || (2 * (num % den) == den && t.goesUp n)
  if down && up then some ⟨if isUpper then n + 1 else n, k⟩
  else if down then some ⟨n, k⟩
  else if up then some ⟨n + 1, k⟩
  else none

/-- How many places behind the point the first digit of a value below one stands, from place `j` on;
the number bounds how many places are tried. -/
def Interval.placeFrom (i : Interval) : Nat → Nat → Nat
  | 0, j => j
  | n + 1, j => if i.denominator ≤ i.value * Nat.pow 10 j then j else i.placeFrom n (j + 1)

/-- The decimal exponent of the value's first digit. -/
def Interval.leading (i : Interval) : Int :=
  if i.denominator ≤ i.value then ((Nat.toDigits 10 (i.value / i.denominator)).length : Int) - 1
  else Int.negOfNat (i.placeFrom 400 1)

/-- The first grid, from coarse to fine, with a decimal that reads back. -/
def Interval.search (i : Interval) (t : Tie) : Nat → Int → Option Scaled
  | 0, _ => none
  | n + 1, k => (i.onGrid? t k).orElse fun _ => i.search t n (k - 1)

/-- The fewest digits that read back as the absolute value of a finite double, nearest to it. -/
def Binary64.shortest (x : Binary64) (t : Tie) : Scaled :=
  if x.isZero then ⟨0, 0⟩ else
    let i := x.interval
    match i.search t 18 i.leading with
    | some d => d.strip 20
    | none => ⟨0, 0⟩

/-- How a double is written: which of two equally near decimals is taken, which decimals are written
positionally, and whether a positive exponent carries its sign. -/
structure Layout where
  tie : Tie
  isPositional : Scaled → Bool
  signsExponent : Bool

/-- The decimal digits of a number. -/
def digitsOf (n : Nat) : List Char := Nat.toDigits 10 n

/-- Digits with a point: positional text of `digits · 10 ^ exponent`, a whole number ending in `.0`. -/
def Scaled.positional (d : Scaled) : List Char :=
  let ds := digitsOf d.digits
  if 0 ≤ d.exponent then ds ++ List.replicate d.exponent.toNat '0' ++ ['.', '0']
  else
    let places := (-d.exponent).toNat
    if places < ds.length then ds.take (ds.length - places) ++ '.' :: ds.drop (ds.length - places)
    else '0' :: '.' :: (List.replicate (places - ds.length) '0' ++ ds)

/-- One digit before the point, and an exponent part. -/
def Scaled.scientific (plus : Bool) (d : Scaled) : List Char :=
  let ds := digitsOf d.digits
  let e := d.exponent + (ds.length : Int) - 1
  let mantissa := match ds with
    | [] => []
    | [c] => [c]
    | c :: cs => c :: '.' :: cs
  let sign := if e < 0 then ['-'] else if plus then ['+'] else []
  mantissa ++ 'e' :: (sign ++ digitsOf e.natAbs)

/-- The decimal exponent of the first digit. -/
def Scaled.leading (d : Scaled) : Int := d.exponent + ((digitsOf d.digits).length : Int) - 1

/-- The text of a double in a layout; infinities are `inf` and what is no number is `NaN`. -/
def Layout.text (l : Layout) (x : Binary64) : List Char :=
  let sign := if x.isNegative then ['-'] else []
  if x.isNaN then ['N', 'a', 'N']
  else if !x.isFinite then sign ++ ['i', 'n', 'f']
  else
    let d := x.shortest l.tie
    sign ++ (if l.isPositional d then d.positional else d.scientific l.signsExponent)

end ScriptHost.Decimal
