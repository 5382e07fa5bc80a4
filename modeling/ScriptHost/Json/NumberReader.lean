import ScriptHost.Json.Fault
import ScriptHost.Json.Value
/-!
Reading JSON numbers.

Whole numbers that fit 64 bits are exact. All others become doubles: at most 19 or 20 digits are kept
as a whole number, which is rounded to a double and scaled by one power of ten, so the result can
differ from the nearest double in the last bit.
-/

namespace ScriptHost.Json

open Decimal

/-- The value of a decimal digit. -/
def digitValue (c : Char) : Nat := c.toNat - '0'.toNat

/-- Takes digits into `n` while it stays below `2^64`; also how many were taken. -/
def takeDigits (n count : Nat) : List Char → Nat × Nat
  | [] => (n, count)
  | c :: cs =>
    if c.isDigit && n * 10 + digitValue c < Nat.pow 2 64
    then takeDigits (n * 10 + digitValue c) (count + 1) cs
    else (n, count)

/-- How many digits come next. -/
def digitCount (cs : List Char) : Nat := (cs.takeWhile Char.isDigit).length

/-- Scales a double by `10 ^ k`, downwards in steps of at most 308; `none` if it leaves the range.
The first argument bounds the number of steps. -/
def scale : Nat → Float → Int → Option Float
  | 0, f, _ => some f
  | n + 1, f, k =>
    if k.natAbs ≤ 308 then
      if 0 ≤ k then
        let g := f * Float.ofScientific 1 false k.natAbs
        if g.isInf then none else some g
      else some (f / Float.ofScientific 1 false k.natAbs)
    else if f == 0.0 then some f
    else if 0 ≤ k then none
    else scale n (f / Float.ofScientific 1 false 308) (k + 308)

/-- The double `significand · 10 ^ k` at a cursor behind its text. -/
def realOf (negative : Bool) (significand : Nat) (k : Int) (c : Cursor) : Reading Json :=
  match scale (k.natAbs / 308 + 2) (Float.ofNat significand) k with
  | none => .error (Fault.numberOutOfRange.at c.pos)
  | some f => .ok (.real (Binary64.ofFloat (if negative then -f else f)), c)

/-- The digits of an exponent into `e`, which stays below `2^31`; also how many were taken, and whether
it would have grown beyond that. -/
def takeExponent (e count : Nat) : List Char → Nat × Nat × Bool
  | [] => (e, count, false)
  | c :: cs =>
    if c.isDigit then
      if e * 10 + digitValue c < Nat.pow 2 31 then takeExponent (e * 10 + digitValue c) (count + 1) cs
      else (e, count + 1, true)
    else (e, count, false)

/-- The rest of a number from its `e` on; `k` is the power of ten so far. -/
def exponentPart (negative : Bool) (significand : Nat) (k : Int) (c : Cursor) : Reading Json :=
  let c := c.next
  let (down, c) := match c.rest with
    | '+' :: _ => (false, c.next)
    | '-' :: _ => (true, c.next)
    | _ => (false, c)
  match c.rest with
  | [] => .error (Fault.endInValue.at c.pos)
  | d :: _ =>
    if !d.isDigit then .error (Fault.invalidNumber.at c.peeked) else
    let (e, count, overflow) := takeExponent 0 0 c.rest
    let c := c.drop count
    if overflow then
      if significand ≠ 0 ∧ !down then .error (Fault.numberOutOfRange.at c.pos)
      else .ok (.real (Binary64.ofFloat (if negative then -0.0 else 0.0)), c.drop (digitCount c.rest))
    else realOf negative significand (if down then k - e else k + e) c

/-- The rest of a number whose digits are read: an exponent or nothing. -/
def exponentOrEnd (negative : Bool) (significand : Nat) (k : Int) (c : Cursor) : Reading Json :=
  match c.rest with
  | 'e' :: _ | 'E' :: _ => exponentPart negative significand k c
  | _ => realOf negative significand k c

/-- The rest of a number from its point on. -/
def fractionPart (negative : Bool) (significand : Nat) (k : Int) (c : Cursor) : Reading Json :=
  let c := c.next
  let (n, count) := takeDigits significand 0 c.rest
  let more := digitCount (c.rest.drop count)
  if count + more = 0 then
    .error ((if c.rest.isEmpty then Fault.endInValue else Fault.invalidNumber).at c.peeked)
  else exponentOrEnd negative n (k - count) (c.drop (count + more))

/-- A number from behind its minus sign, if it has one. -/
def readNumber (negative : Bool) (c : Cursor) : Reading Json :=
  match c.rest with
  | [] => .error (Fault.endInValue.at c.pos)
  | d :: ds =>
    if !d.isDigit then .error (Fault.invalidNumber.at c.peeked)
    else if d = '0' ∧ (ds.head?.any Char.isDigit) then .error (Fault.invalidNumber.at c.next.peeked)
    else
      let (n, count) := takeDigits 0 0 c.rest
      let more := digitCount (c.rest.drop count)
      let c := c.drop (count + more)
      match c.rest with
      | '.' :: _ => fractionPart negative n more c
      | 'e' :: _ | 'E' :: _ => exponentPart negative n more c
      | _ =>
        if more ≠ 0 then realOf negative n more c
        else if !negative then .ok (.int n, c)
        else if n = 0 ∨ Nat.pow 2 63 < n then .ok (.real (Binary64.ofFloat (-(Float.ofNat n))), c)
        else .ok (.int (-(n : Int)), c)

end ScriptHost.Json
