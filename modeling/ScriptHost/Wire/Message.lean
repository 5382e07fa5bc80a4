import ScriptHost.Json.Printer
import ScriptHost.Json.Reader
/-!
Messages that an engine posts.

A signal completes one invocation; a lifecycle message tells whether the engine came up. Either is
written as a JSON object, and also read from an array of its fields. `Message.ofWritten?` is the
grammar: it sees the members of an object as they stand in the text, repetitions included, and tries
the lifecycle reading before the signal reading.
-/

namespace ScriptHost

/-- The name of one invocation. -/
structure InvocationId where
  text : String
deriving DecidableEq, Repr, Inhabited

/-- The `n`-th id under a prefix. -/
def InvocationId.issue (stem : String) (n : Nat) : InvocationId := ⟨s!"{stem}-{n}"⟩

/-- What an engine reports about one invocation. An error outweighs a value; without either the
invocation yields `null`. -/
structure Signal where
  id : InvocationId
  value : Option Json
  error : Option String
deriving BEq, Repr

/-- What an engine reports about itself. -/
inductive Lifecycle where
  | ready
  | initError (reason : String)
deriving DecidableEq, Repr

/-- Anything that an engine may post. -/
inductive Message where
  | lifecycle (l : Lifecycle)
  | signal (s : Signal)
deriving BEq, Repr

namespace Signal

/-- A signal that carries a value. -/
def ofValue (id : InvocationId) (v : Json) : Signal := ⟨id, some v, none⟩

/-- A signal that carries an error. -/
def ofError (id : InvocationId) (message : String) : Signal := ⟨id, none, some message⟩

/-- The members of a signal's JSON form; absent fields are left out. -/
def toJson (s : Signal) : Json :=
  .obj <| ("id", .str s.id.text) :: (s.value.map fun v => ("value", v)).toList
    ++ (s.error.map fun e => ("error", Json.str e)).toList

/-- The JSON text of a signal. -/
def text (s : Signal) : String := s.toJson.text

end Signal

namespace Lifecycle

/-- The JSON form of a lifecycle message. -/
def toJson : Lifecycle → Json
  | ready => .obj [("type", .str "ready")]
  | initError reason => .obj [("type", .str "init_error"), ("error", .str reason)]

/-- The JSON text of a lifecycle message. -/
def text (l : Lifecycle) : String := l.toJson.text

end Lifecycle

/-- How often a key occurs among the members of an object, with its value if it occurs once. -/
inductive Occurrence where
  | absent
  | once (v : Json)
  | repeated
deriving BEq, Repr

/-- Looks through all members for a key. -/
def occurrence (key : String) : List (String × Json) → Occurrence
  | [] => .absent
  | (k, v) :: ms =>
    if k = key then
      match occurrence key ms with
      | .absent => .once v
      | _ => .repeated
    else occurrence key ms

/-- The kind of a lifecycle message. -/
inductive Tag where
  | ready
  | initError
deriving DecidableEq, Repr

/-- A tag is its name or its index. -/
def Tag.ofJson? : Json → Option Tag
  | .str s => if s = "ready" then some .ready else if s = "init_error" then some .initError else none
  | .int n => if n = 0 then some .ready else if n = 1 then some .initError else none
  | _ => none

/-- The lifecycle reading of a JSON value as written. -/
def Lifecycle.ofWritten? : Json → Option Lifecycle
  | .obj ms =>
    match occurrence "type" ms with
    | .once t =>
      match Tag.ofJson? t with
      | some .ready => some .ready
      | some .initError =>
        match occurrence "error" ms with
        | .once (.str e) => some (.initError e)
        | _ => none
      | none => none
    | _ => none
  | .arr (t :: fields) =>
    match Tag.ofJson? t, fields with
    | some .ready, [] => some .ready
    | some .initError, [.str e] => some (.initError e)
    | _, _ => none
  | _ => none

/-- A field that `null` leaves absent. -/
def presentValue : Json → Option Json
  | .null => none
  | v => some v.canonical

/-- An error field: a string, or `null` for none. -/
def presentError? : Json → Option (Option String)
  | .null => some none
  | .str e => some (some e)
  | _ => none

/-- The signal reading of a JSON value as written. -/
def Signal.ofWritten? : Json → Option Signal
  | .obj ms =>
    match occurrence "id" ms with
    | .once (.str id) =>
      let value? := match occurrence "value" ms with
        | .absent => some none
        | .once v => some (presentValue v)
        | .repeated => none
      let error? := match occurrence "error" ms with
        | .absent => some none
        | .once e => presentError? e
        | .repeated => none
      match value?, error? with
      | some value, some error => some ⟨⟨id⟩, value, error⟩
      | _, _ => none
    | _ => none
  | .arr [.str id] => some ⟨⟨id⟩, none, none⟩
  | .arr [.str id, v] => some ⟨⟨id⟩, presentValue v, none⟩
  | .arr [.str id, v, e] => (presentError? e).map fun error => ⟨⟨id⟩, presentValue v, error⟩
  | _ => none

namespace Message

/-- The JSON form of a message. -/
def toJson : Message → Json
  | lifecycle l => l.toJson
  | signal s => s.toJson

/-- The JSON text of a message. -/
def text (m : Message) : String := m.toJson.text

/-- The message that a JSON value as written stands for: a lifecycle message if it reads as one, or
else a signal. -/
def ofWritten? (v : Json) : Option Message :=
  match Lifecycle.ofWritten? v with
  | some l => some (.lifecycle l)
  | none => (Signal.ofWritten? v).map .signal

/-- What is said of JSON that is no message. -/
def mismatch : Json.ReadError :=
  .shape "data did not match any variant of untagged enum InboundMessage"

/-- Reads a posted text. -/
def parse (raw : String) : Except Json.ReadError Message := do
  let (v, c) ← Json.readPrefix raw
  match ofWritten? v with
  | none => .error mismatch
  | some m =>
    Json.readEnd c
    pure m

end Message

end ScriptHost
