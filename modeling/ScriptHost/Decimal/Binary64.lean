/-!
Doubles as bit patterns.

A double is its 64 bits, so that equality is decidable and tells `0.0` from `-0.0`. Arithmetic goes
through `Float`; what printing needs is the exact value `m · 2^e`.
-/

namespace ScriptHost.Decimal

/-- A double, by its bits. -/
structure Binary64 where
  bits : UInt64
deriving DecidableEq, Repr, Inhabited

namespace Binary64

/-- The number for arithmetic. -/
def toFloat (x : Binary64) : Float := Float.ofBits x.bits

/-- The bits of a number. -/
def ofFloat (f : Float) : Binary64 := ⟨f.toBits⟩

/-- Whether the sign bit is set. -/
def isNegative (x : Binary64) : Bool := x.bits.toNat / Nat.pow 2 63 == 1

/-- The biased exponent. -/
def exponentField (x : Binary64) : Nat := x.bits.toNat / Nat.pow 2 52 % Nat.pow 2 11

/-- The bits after the leading one. -/
def fraction (x : Binary64) : Nat := x.bits.toNat % Nat.pow 2 52

/-- Neither an infinity nor a NaN. -/
def isFinite (x : Binary64) : Bool := x.exponentField != 2047

/-- Whether it is no number. -/
def isNaN (x : Binary64) : Bool := x.exponentField == 2047 && x.fraction != 0

/-- Whether it is `0.0` or `-0.0`. -/
def isZero (x : Binary64) : Bool := x.exponentField == 0 && x.fraction == 0

/-- The significand of a finite number: its absolute value is `significand · 2 ^ exponent`. -/
def significand (x : Binary64) : Nat :=
  if x.exponentField = 0 then x.fraction else Nat.pow 2 52 + x.fraction

/-- The power of two that the significand is scaled by. -/
def exponent (x : Binary64) : Int :=
  if x.exponentField = 0 then -1074 else (x.exponentField : Int) - 1075

/-- The double nearest to an integer. -/
def ofInt (n : Int) : Binary64 :=
  ofFloat (if n < 0 then -(Float.ofNat n.natAbs) else Float.ofNat n.natAbs)

end Binary64

end ScriptHost.Decimal
