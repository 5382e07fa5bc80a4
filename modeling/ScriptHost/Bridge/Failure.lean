import ScriptHost.Json.Reader
/-!
What a bridge answers its callers.

A `Failure` is the cause why there is no value; `Failure.message` is its wording. Callers also name
failures by their kind, as an engine does that is told to fail.
-/

namespace ScriptHost

/-- Why an operation of a bridge has no result. -/
inductive Failure where
  /-- a source or a result cannot cross the border to the engine -/
  | encoding (message : String)
  /-- the engine raised an error -/
  | engine (message : String)
  /-- the invocation could not be handed to the engine -/
  | transport (message : String)
  /-- the caller stopped waiting for an invocation -/
  | timeout (id : String) (ms : Nat)
  /-- the value is not of the type asked for -/
  | typeMismatch (message : String)
  /-- a blocking call on the engine's own thread -/
  | affinityViolation
  /-- the gate stayed closed -/
  | notReady (ms : Nat)
  /-- the bridge was shut down first -/
  | closed
  | invalidConfiguration (message : String)
  | io (message : String)
  /-- a text is not the JSON it should be -/
  | malformedJson (message : String)
deriving DecidableEq, Repr

/-- What an invocation yields. -/
abbrev Outcome := Except Failure Json

namespace Failure

/-- The wording of a failure. -/
def message : Failure → String
  | encoding m => s!"Encoding error: {m}"
  | engine m => s!"Engine error: {m}"
  | transport m => s!"Transport error: {m}"
  | timeout id ms => s!"Invocation timed out after {ms}ms: {id}"
  | typeMismatch m => s!"Type mismatch: {m}"
  | affinityViolation => "Blocking invocation on the engine thread would deadlock"
  | notReady ms => s!"Engine not ready after {ms}ms"
  | closed => "Bridge closed"
  | invalidConfiguration m => s!"Invalid configuration: {m}"
  | io m => s!"IO error: {m}"
  | malformedJson m => s!"JSON serialization error: {m}"

/-- The name of a failure's kind. -/
def kind : Failure → String
  | encoding _ => "Encoding"
  | engine _ => "Engine"
  | transport _ => "Transport"
  | timeout _ _ => "Timeout"
  | typeMismatch _ => "TypeMismatch"
  | affinityViolation => "AffinityViolation"
  | notReady _ => "NotReady"
  | closed => "Closed"
  | invalidConfiguration _ => "InvalidConfiguration"
  | io _ => "Io"
  | malformedJson _ => "JsonParse"

/-- Whether a caller stopped waiting. -/
def isTimeout : Failure → Bool
  | timeout _ _ => true
  | _ => false

/-- A text that is not the JSON it should be. -/
def ofReadError (e : Json.ReadError) : Failure := .malformedJson e.message

/-- The failure of a script that ran out of its time. -/
def scriptTimeout (ms : Nat) : Failure := .engine s!"Script timed out after {ms}ms"

/-- There is no engine thread any more to take a command. -/
def notRunning : Failure := .transport "engine thread is not running"

/-- The engine could not be built, though the gate had been opened. -/
def unavailable : Failure := .transport "engine unavailable"

/-- The gate opened because the engine did not come up. -/
def initFailed (reason : String) : Failure := .transport s!"engine failed to initialize: {reason}"

/-- The engine panicked in the middle of an invocation. -/
def panicked : Failure := .engine "engine panicked during evaluation"

/-- The failure of a kind. A text that must not be JSON is given for the kind of malformed JSON; if it
is JSON there is no failure. -/
def named? (kind message : String) (ms : Nat) : Option Failure :=
  match kind with
  | "Encoding" => some (.encoding message)
  | "Engine" => some (.engine message)
  | "Transport" => some (.transport message)
  | "Timeout" => some (.timeout message ms)
  | "TypeMismatch" => some (.typeMismatch message)
  | "AffinityViolation" => some .affinityViolation
  | "NotReady" => some (.notReady ms)
  | "Closed" => some .closed
  | "InvalidConfiguration" => some (.invalidConfiguration message)
  | "Io" => some (.io message)
  | "ScriptTimeout" => some (scriptTimeout ms)
  | "JsonParse" =>
    match Json.read message with
    | .ok _ => none
    | .error e => some (.ofReadError e)
  | _ => none

end Failure

end ScriptHost
