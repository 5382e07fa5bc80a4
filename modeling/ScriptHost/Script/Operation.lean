import ScriptHost.Script.Fault
import ScriptHost.Text.Blank
/-!
What operators do to values.

Some operators the language works out at once; others are functions that are called, and count as such.
Whole numbers are those from `-2^63` to `2^63 - 1`; an operation that leaves them fails. A whole number
meets a double as a double. Values of different types are different, and none is less than the other.
A range without a start begins with zero, and one without an end goes as far as numbers do.
An answer of `none` means that the operator does not take such operands.
-/

namespace ScriptHost.Script

open Decimal

/-- Whether a whole number is one that scripts have. -/
def fits (n : Int) : Bool := -Int.pow 2 63 ≤ n && n < Int.pow 2 63

/-- The largest whole number that scripts have. -/
def largest : Int := Int.pow 2 63 - 1

/-- The number, if it fits. -/
def checked (n : Int) (f : Fault) : Except Fault Value := if fits n then .ok (.int n) else .error f

/-- A comparison, from what holds of the operands: equal, less, greater. -/
def comparison (eq lt gt : Bool) : Operator → Option Value
  | .equal => some (.bool eq)
  | .notEqual => some (.bool !eq)
  | .less => some (.bool lt)
  | .lessEqual => some (.bool (lt || eq))
  | .greater => some (.bool gt)
  | .greaterEqual => some (.bool (gt || eq))
  | _ => none

/-! ## Numbers -/

/-- What operators do to whole numbers; division cuts off what is behind the point. -/
def intOperation : Operator → Int → Int → Option (Except Fault Value)
  | .plus, a, b => some (checked (a + b) (.overflow "Addition" a .plus b))
  | .minus, a, b => some (checked (a - b) (.overflow "Subtraction" a .minus b))
  | .times, a, b => some (checked (a * b) (.overflow "Multiplication" a .times b))
  | .divide, a, b =>
    some (if b = 0 then .error (.divisionByZero a b)
      else checked (a.tdiv b) (.overflow "Division" a .divide b))
  | .modulo, a, b =>
    some (if b = 0 ∨ !fits (a.tdiv b) then .error (.moduloByZero a b) else .ok (.int (a.tmod b)))
  | .range, a, b => some (.ok (.range a b false))
  | .rangeInclusive, a, b => some (.ok (.range a b true))
  | op, a, b => (comparison (a == b) (a < b) (b < a) op).map .ok

/-- The rest of a division of doubles, with the sign of the dividend; it is exact. -/
def remainder (x y : Binary64) : Float :=
  if !x.isFinite || y.isNaN || y.isZero then 0.0 / 0.0
  else if !y.isFinite then x.toFloat
  else
    let e := min x.exponent y.exponent
    let a := x.significand * Nat.pow 2 (x.exponent - e).toNat
    let b := y.significand * Nat.pow 2 (y.exponent - e).toNat
    let r := (Float.ofNat (a % b)).scaleB e
    if x.isNegative then -r else r

/-- How far apart doubles may be that count as equal: the gap between one and the double above it. -/
def tolerance : Float := Float.scaleB 1.0 (-52)

/-- How far the first of two doubles is above the second, in proportion to the larger one of them. Where
their product vanishes it is taken as it is. -/
def excess (x y : Float) : Float :=
  let scale := if x * y == 0.0 then 1.0 else if x.abs ≤ y.abs then y.abs else x.abs
  (x - y) / scale

/-- What operators do to doubles. Those are equal that are no further apart than the tolerance, and one is
above the other where it is further above it; so what is no number compares with nothing, nor does what
is infinite. -/
def floatOperation (op : Operator) (a b : Binary64) : Option Value :=
  let x := a.toFloat
  let y := b.toFloat
  let above := excess x y
  match op with
  | .plus => some (.float (.ofFloat (x + y)))
  | .minus => some (.float (.ofFloat (x - y)))
  | .times => some (.float (.ofFloat (x * y)))
  | .divide => some (.float (.ofFloat (x / y)))
  | .modulo => some (.float (.ofFloat (remainder a b)))
  | .equal => some (.bool (above.abs ≤ tolerance))
  | .notEqual => some (.bool (tolerance < above.abs))
  | .less => some (.bool (above < -tolerance))
  | .lessEqual => some (.bool (above ≤ tolerance))
  | .greater => some (.bool (tolerance < above))
  | .greaterEqual => some (.bool (-tolerance ≤ above))
  | _ => none

/-! ## Texts -/

/-- The characters of a string or of a character. -/
def Value.letters? : Value → Option String
  | .str s => some s
  | .char c => some (String.singleton c)
  | _ => none

/-- A text without the places where another one stands in it; what is taken from nothing stays. -/
def without (s t : String) : String := if t = "" then s else if s = "" then t else Text.replace t "" s

/-- What operators do to strings and characters, which compare by the code points of their letters. -/
def textOperation (op : Operator) (a b : Value) : Option Value :=
  match a.letters?, b.letters? with
  | some s, some t =>
    match op, a, b with
    | .plus, _, _ => some (.str (s ++ t))
    | .minus, .str _, .str _ => some (.str (without s t))
    | .minus, .str _, .char _ => some (.str (Text.replace t "" s))
    | op, _, _ => comparison (s == t) (s < t) (t < s) op
  | _, _ => none

/-! ## Operators worked out at once -/

/-- Whether two values have one type. -/
def Value.sameType : Value → Value → Bool
  | .unit, .unit | .bool _, .bool _ | .int _, .int _ | .float _, .float _ | .char _, .char _
  | .str _, .str _ | .array _, .array _ | .map _, .map _ | .function _, .function _ | .host, .host => true
  | .range _ _ i, .range _ _ j => i == j
  | _, _ => false

/-- A comparison of values of different types. -/
def mismatched : Operator → Option Value
  | .notEqual => some (.bool true)
  | .equal | .less | .lessEqual | .greater | .greaterEqual => some (.bool false)
  | _ => none

/-- A comparison of nothing with nothing. -/
def unitOperation (op : Operator) : Option Value :=
  (mismatched op).map fun _ => .bool (op = .equal)

/-- What operators do where one of the values is missing: a range is left open, and a string stays as it is. -/
def openOperation (op : Operator) (a b : Value) : Option Value :=
  match op, a, b with
  | .range, .int n, .unit => some (.range n largest false)
  | .range, .unit, .int n => some (.range 0 n false)
  | .range, .unit, .unit => some (.range 0 largest false)
  | .rangeInclusive, .int n, .unit => some (.range n largest true)
  | .rangeInclusive, .unit, .int n => some (.range 0 n true)
  | .rangeInclusive, .unit, .unit => some (.range 0 largest true)
  | .plus, .str s, .unit | .plus, .unit, .str s => some (.str s)
  | _, _, _ => none

/-- What an operator does to two values, if the language works that out at once. -/
def atOnce (op : Operator) (a b : Value) : Option (Except Fault Value) :=
  match a, b with
  | .int a, .int b => intOperation op a b
  | .float a, .float b => (floatOperation op a b).map .ok
  | .int a, .float b => (floatOperation op (.ofInt a) b).map .ok
  | .float a, .int b => (floatOperation op a (.ofInt b)).map .ok
  | .unit, .unit => ((openOperation op .unit .unit).or (unitOperation op)).map .ok
  | .bool a, .bool b => (comparison (a == b) (!a && b) (a && !b) op).map .ok
  | a, b =>
    (((openOperation op a b).or (textOperation op a b)).or
      (if a.sameType b then none else mismatched op)).map .ok

/-! ## Operators that are functions -/

/-- A call as messages about unknown functions show it. -/
def signature (t : HostType) (f : String) (args : List Value) : String :=
  s!"{f} (" ++ String.intercalate ", " (args.map (·.signatureName t)) ++ ")"

/-- Whether two collections are equal, and how deep calls nest to find that out. -/
structure Agreement where
  result : Except Fault Bool
  depth : Nat

mutual

/-- Whether two parts of collections are equal: those of one type must be comparable. -/
def Value.agree (t : HostType) (a b : Value) : Agreement :=
  match a, b with
  | .array xs, .array ys => if xs.length = ys.length then Value.agreeItems t xs ys else ⟨.ok false, 0⟩
  | .map xs, .map ys => if xs.length = ys.length then Value.agreeMembers t xs ys else ⟨.ok false, 0⟩
  | .range a b i, .range c d j => ⟨.ok (i == j && a == c && b == d), 0⟩
  | a, b =>
    match atOnce .equal a b with
    | some (.ok v) => ⟨.ok (match v with | .bool r => r | _ => false), 0⟩
    | some (.error f) => ⟨.error f, 0⟩
    | none => ⟨.error (.functionNotFound (signature t "==" [a, b])), 0⟩

/-- Whether the items of two arrays are equal. -/
def Value.agreeItems (t : HostType) : List Value → List Value → Agreement
  | [], [] => ⟨.ok true, 0⟩
  | x :: xs, y :: ys =>
    let first := x.agree t y
    match first.result with
    | .ok true =>
      let others := Value.agreeItems t xs ys
      ⟨others.result, max (first.depth + 1) others.depth⟩
    | r => ⟨r, first.depth + 1⟩
  | _, _ => ⟨.ok false, 0⟩

/-- Whether the members of two maps are equal. -/
def Value.agreeMembers (t : HostType) : List (String × Value) → List (String × Value) → Agreement
  | [], [] => ⟨.ok true, 0⟩
  | (k, x) :: xs, (l, y) :: ys =>
    if k = l then
      let first := x.agree t y
      match first.result with
      | .ok true =>
        let others := Value.agreeMembers t xs ys
        ⟨others.result, max (first.depth + 1) others.depth⟩
      | r => ⟨r, first.depth + 1⟩
    else ⟨.ok false, 0⟩
  | _, _ => ⟨.ok false, 0⟩

end

/-- What the function of an operator makes of two values, and how deep calls nest inside it. -/
structure Called where
  result : Except Fault Value
  depth : Nat := 0

/-- Strings join; what is no string is joined to one as its text. -/
def joined (t : HostType) (a b : Value) : Option Value :=
  match a, b with
  | .str _, _ | _, .str _ => some (.str (a.text (.printed t) ++ b.text (.printed t)))
  | .array a, .array b => some (.array (a ++ b))
  | .map a, .map b => some (.map (b.foldl (fun ms m => Members.put m.1 m.2 ms) a))
  | _, _ => none

/-- What an operator does to two values by a call of its function. -/
def called (t : HostType) (op : Operator) (a b : Value) : Option Called :=
  let compared (f : Bool → Bool) : Option Called :=
    match a, b with
    | .array _, .array _ | .map _, .map _ | .range .., .range .. =>
      let r := a.agree t b
      some ⟨r.result.map fun b => .bool (f b), r.depth⟩
    | _, _ => none
  match op with
  | .plus => (joined t a b).map fun v => ⟨.ok v, 0⟩
  | .equal => compared id
  | .notEqual => compared not
  | _ => none

/-- What an operator does to one value. -/
def unary (op : Operator) (a : Value) : Option (Except Fault Value) :=
  match op, a with
  | .negate, .int n => some (checked (-n) .negationOverflow)
  | .negate, .float x => some (.ok (.float (.ofFloat (-x.toFloat))))
  | .affirm, .int n => some (.ok (.int n))
  | .affirm, .float x => some (.ok (.float x))
  | .not, .bool b => some (.ok (.bool !b))
  | _, _ => none

end ScriptHost.Script
