import ScriptHost.Bridge.Failure
import ScriptHost.Text.Blank
import ScriptHost.Text.Quoted
/-!
The settings of a bridge.

`Config.validate` names the first rule that the settings violate. The stem of ids is spliced into
programs as it is, so only ASCII letters, digits, `-` and `_` may occur in it.
-/

namespace ScriptHost

/-- The settings of a bridge. -/
structure Config where
  /-- how long the engine may take to report before the gate opens anyway; there is no rule about it, though its end
  may be beyond the times that can be told -/
  bootstrapMs : Nat := 10000
  /-- how long a typed invocation waits -/
  defaultTimeoutMs : Nat := 30000
  /-- what ids begin with -/
  idStem : String := "inv"
  threadName : String := "scriptbridge-engine"
deriving DecidableEq, Repr

namespace Config

/-- A rule that settings may violate. -/
inductive Violation where
  | emptyStem
  | stemCharacter (c : Char)
  | emptyThreadName
deriving DecidableEq, Repr

/-- The wording of a violation. -/
def Violation.message : Violation → String
  | emptyStem => "id_prefix must not be empty"
  | stemCharacter c => "id_prefix contains unsupported character " ++ Text.quoteChar c
  | emptyThreadName => "thread_name must not be empty"

/-- A violation as a failure. -/
def Violation.failure (v : Violation) : Failure := .invalidConfiguration v.message

/-- The characters that may stand in the stem of ids. -/
def isStemChar (c : Char) : Bool := c.isAlphanum || c = '-' || c = '_'

/-- The first rule that the settings violate. -/
def violation? (c : Config) : Option Violation :=
  if c.idStem.toList.isEmpty then some .emptyStem
  else
    match c.idStem.toList.find? fun x => !isStemChar x with
    | some x => some (.stemCharacter x)
    | none => if c.threadName.toList.isEmpty then some .emptyThreadName else none

/-- Whether a bridge may be started with the settings. -/
def validate (c : Config) : Except Violation Unit :=
  match c.violation? with
  | some v => .error v
  | none => .ok ()

/-- Why no thread can be started under the settings' name: a name holds no NUL. The text shows where
the first one stands and all bytes of the name. -/
def threadPanic? (c : Config) : Option String :=
  (Text.offset? (Char.ofNat 0) c.threadName).map fun offset =>
    s!"thread name may not contain interior null bytes: NulError({offset}, ["
      ++ ", ".intercalate (c.threadName.toUTF8.toList.map fun b => toString b.toNat) ++ "])"

end Config

end ScriptHost
