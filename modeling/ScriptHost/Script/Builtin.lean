import ScriptHost.Script.Api
import ScriptHost.Script.Operation
import ScriptHost.Text.Split
/-!
The functions that every script may call, and those of its host.

A function is chosen by its name and by the types of its arguments.
-/

namespace ScriptHost.Script

/-- What a call of a function comes to. -/
inductive Reply where
  | value (v : Value)
  /-- the first argument is changed to a value -/
  | changed (v result : Value)
  | fault (f : Fault)
  /-- the caller prints a text -/
  | printed (s : String)
  /-- the caller prints a text for debugging -/
  | debugged (s : String)
  /-- the host raises an error -/
  | raised (message : String)
  /-- the host panics -/
  | panicked (text : String)

/-- What a digit counts; letters of either case are the digits from ten on. -/
def digitValue? (c : Char) : Option Nat :=
  if c.isDigit then some (c.toNat - '0'.toNat)
  else if c.isAlpha then some (c.toLower.toNat - 'a'.toNat + 10)
  else none

/-- The number that digits of a base spell, if they do. -/
def digitsValue? (base : Nat) (cs : List Char) : Option Nat :=
  if cs.isEmpty then none
  else cs.foldlM (fun n c => do
    let d ← digitValue? c
    if d < base then some (n * base + d) else none) 0

/-- Why a text is no whole number. -/
def invalidDigit : String := "invalid digit found in string"

/-- The whole number of a base that a text spells between its blanks, or why it spells none. -/
def wholeNumber (base : Nat) (s : String) : Except String Int :=
  let signed (negative : Bool) (cs : List Char) : Except String Int :=
    match digitsValue? base cs with
    | none => .error invalidDigit
    | some n =>
      let n : Int := if negative then -n else n
      if fits n then .ok n
      else if negative then .error "number too small to fit in target type"
      else .error "number too large to fit in target type"
  match Text.trimmed s.toList with
  | [] => .error "cannot parse integer from empty string"
  | '-' :: cs => signed true cs
  | '+' :: cs => signed false cs
  | cs => signed false cs

/-- The number that a text spells in a base; there are bases up to as many digits as there are. -/
def parsed (base : Int) (s : String) : Reply :=
  if base < 2 ∨ 36 < base then .fault (.invalidRadix base)
  else
    match wholeNumber base.toNat s with
    | .ok n => .value (.int n)
    | .error reason => .fault (.malformedInteger s reason)

/-- The texts as an array. -/
def texts (ss : List String) : Reply := .value (.array (ss.map .str))

/-- An array cut off at a place, which counts back from the end if it is negative: what is behind the place
is the result. -/
def cutOff (xs : List Value) (place : Int) : Reply :=
  let n := if place < 0 then xs.length - place.natAbs else place.toNat
  .changed (.array (xs.take n)) (.array (xs.drop n))

/-- Whether a text may name a function: a name that the language has no use for. -/
def isFunctionName (s : String) : Bool := isName s && !isReserved s

/-- What the functions of the language itself do. -/
def languageReply (t : HostType) (f : String) (args : List Value) : Option Reply :=
  match f, args with
  | "len", [.str s] => some (.value (.int s.length))
  | "len", [.array xs] => some (.value (.int xs.length))
  | "len", [.map ms] => some (.value (.int ms.length))
  | "push", [.array xs, v] => some (.changed (.array (xs ++ [v])) .unit)
  | "split", [.str s] => some (texts (Text.words s))
  | "split", [.str s, .str sep] => some (texts (Text.split sep s))
  | "split", [.str s, .char sep] => some (texts (Text.split (String.singleton sep) s))
  | "split", [.str s, .str sep, .int n] => some (texts (Text.splitAtMost (max n 1).toNat sep s))
  | "split", [.str s, .char sep, .int n] =>
    some (texts (Text.splitAtMost (max n 1).toNat (String.singleton sep) s))
  | "split", [.str s, .int place] => some (texts (Text.cutAt place s))
  | "split", [.array xs, .int place] => some (cutOff xs place)
  | "parse_int", [.str s] => some (parsed 10 s)
  | "parse_int", [.str s, .int base] => some (parsed base s)
  | "print", [] => some (.printed "")
  | "print", [v] => some (.printed (v.text (.printed t)))
  | "debug", [] => some (.debugged "")
  | "debug", [v] => some (.debugged (v.detail (.printed t)))
  | _, _ => none

/-- What the first of the host's functions does that has the name and takes the arguments. -/
def hostReply (api : Api) (f : String) (args : List Value) : Option Reply :=
  (api.functions.findSome? fun h => if h.name = f then h.call args else none).map fun
    | .value v => .value v
    | .raised message => .raised message
    | .panicked text => .panicked text

/-- What a call of a function comes to that no script defines. -/
def reply (api : Api) (f : String) (args : List Value) : Reply :=
  ((hostReply api f args).or (languageReply api.hostType f args)).getD
    (.fault (.functionNotFound (signature api.hostType f args)))

end ScriptHost.Script
