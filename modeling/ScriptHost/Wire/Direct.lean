import ScriptHost.Json.Described
import ScriptHost.Json.Skipper
import ScriptHost.Wire.Message
/-!
Reading one kind of message only.

Where the kind is known beforehand the text is read straight into it. The answers agree with
`Message.parse` on what they accept but tell what is wrong and where.
-/

namespace ScriptHost.Wire

open Json

/-- A fault and the cursor at which reading stopped, from which the end of the enclosing container is
still looked for when the fault has no place of its own. -/
abbrev Stop := ReadError × Cursor

/-- Why there is no value of the expected kind at a cursor. A list or an object is not opened for it. -/
def unexpectedAt (c : Cursor) (expected : String) : ReadError :=
  match c.rest with
  | '[' :: _ => (Fault.shape (invalidType "sequence" expected)).at c.pos
  | '\x7b' :: _ => (Fault.shape (invalidType "map" expected)).at c.pos
  | _ =>
    match readAt depthLimit c with
    | .error e => e
    | .ok (v, c) => (Fault.shape (invalidType v.described expected)).at c.pos

/-- A string, where something is expected that a string spells. -/
def stringAt (expected : String) (c : Cursor) : Reading String :=
  let c := c.skipSpace
  match c.rest with
  | [] => .error (Fault.endInValue.at c.peeked)
  | '\"' :: _ => readString c.next
  | _ => .error (unexpectedAt c expected)

/-- A value for which `null` stands for none. -/
def optionAt {α : Type} (item : Cursor → Reading α) (c : Cursor) : Reading (Option α) :=
  let c := c.skipSpace
  match c.rest with
  | 'n' :: _ => (readWord ['u', 'l', 'l'] c.next).map fun c => (none, c)
  | _ => (item c).map fun r => (some r.1, r.2)

/-- Levels that may open inside an object or array. -/
def innerDepth : Nat := depthLimit - 1

/-- Any value, where `null` stands for none. -/
def valueAt (c : Cursor) : Reading (Option Json) :=
  optionAt (fun c => (readAt innerDepth c).map fun r => (r.1.canonical, r.2)) c

/-- A string, where `null` stands for none. -/
def textAt (c : Cursor) : Reading (Option String) := optionAt (stringAt "a string") c

/-- The end of an array whose items are all read; what is consumed also if it is not there. -/
def endOfList (c : Cursor) : Except ReadError Unit × Cursor :=
  let c := c.skipSpace
  match c.rest with
  | [] => (.error (Fault.endInList.at c.peeked), c)
  | ']' :: _ => (.ok (), c.next)
  | ',' :: _ =>
    let c := c.next.skipSpace
    match c.rest with
    | ']' :: _ => (.error (Fault.trailingComma.at c.peeked), c)
    | _ => (.error (Fault.trailingCharacters.at c.peeked), c)
  | _ => (.error (Fault.trailingCharacters.at c.peeked), c)

/-- The end of an object whose members are all read; what is consumed also if it is not there. -/
def endOfObject (c : Cursor) : Except ReadError Unit × Cursor :=
  let c := c.skipSpace
  match c.rest with
  | [] => (.error (Fault.endInObject.at c.peeked), c)
  | '\x7d' :: _ => (.ok (), c.next)
  | ',' :: _ => (.error (Fault.trailingComma.at c.peeked), c)
  | _ => (.error (Fault.trailingCharacters.at c.peeked), c)

/-- Ends a container: a fault of its content comes first, and is placed where the end was looked for if
it has no place. -/
def closed {α : Type} (finish : Cursor → Except ReadError Unit × Cursor) (content : Except Stop (α × Cursor)) :
    Reading α :=
  match content with
  | .error (e, c) => .error (e.orAt (finish c).2.pos)
  | .ok (a, c) =>
    match finish c with
    | (.error e, _) => .error e
    | (.ok (), c) => .ok (a, c)

/-- Turns a reader's error, which has its place, into a stop. -/
def stopping {α : Type} (r : Except ReadError α) (c : Cursor) : Except Stop α :=
  match r with
  | .ok a => .ok a
  | .error e => .error (e, c)

/-- The fields of a signal found so far. -/
structure Fields where
  id : Option String
  value : Option (Option Json)
  error : Option (Option String)

/-- The members of a signal behind its opening brace or behind a member. -/
def signalMembers : Nat → Bool → Fields → Cursor → Except Stop (Signal × Cursor)
  | 0, _, _, c => .error (Fault.tooDeep.at c.peeked, c)
  | fuel + 1, first, f, c => do
    let (more, c) ← stopping (nextMember first c) c
    if !more then
      match f.id with
      | none => .error (.shape (missingField "id"), c)
      | some id => pure (⟨⟨id⟩, f.value.join, f.error.join⟩, c)
    else
      let (key, c) ← stopping (readString c.next) c
      if key = "id" then
        if f.id.isSome then .error (.shape (duplicateField "id"), c)
        let c ← stopping (readColon c) c
        let (id, c) ← stopping (stringAt "a string" c) c
        signalMembers fuel false { f with id := some id } c
      else if key = "value" then
        if f.value.isSome then .error (.shape (duplicateField "value"), c)
        let c ← stopping (readColon c) c
        let (v, c) ← stopping (valueAt c) c
        signalMembers fuel false { f with value := some v } c
      else if key = "error" then
        if f.error.isSome then .error (.shape (duplicateField "error"), c)
        let c ← stopping (readColon c) c
        let (e, c) ← stopping (textAt c) c
        signalMembers fuel false { f with error := some e } c
      else
        let c ← stopping (readColon c) c
        let c ← stopping (skipValue c) c
        signalMembers fuel false f c

/-- The items of a signal in array form, behind the opening bracket. -/
def signalItems (c : Cursor) : Except Stop (Signal × Cursor) := do
  let (more, c) ← stopping (nextItem true c) c
  if !more then .error (.shape (invalidLength 0 "struct Signal with 3 elements"), c)
  let (id, c) ← stopping (stringAt "a string" c) c
  let (more, c) ← stopping (nextItem false c) c
  let (value, c) ← if more then stopping (valueAt c) c else pure (none, c)
  let (more, c) ← if more then stopping (nextItem false c) c else pure (false, c)
  let (error, c) ← if more then stopping (textAt c) c else pure (none, c)
  pure (⟨⟨id⟩, value, error⟩, c)

/-- A signal at a cursor. -/
def signalAt (c : Cursor) : Reading Signal :=
  let c := c.skipSpace
  match c.rest with
  | [] => .error (Fault.endInValue.at c.peeked)
  | '[' :: _ => closed endOfList (signalItems c.next)
  | '\x7b' :: _ => closed endOfObject (signalMembers c.fuel true ⟨none, none, none⟩ c.next)
  | _ => .error (unexpectedAt c "struct Signal")

/-- The tag of a lifecycle message, by name. -/
def tagAt (c : Cursor) : Except ReadError (Tag × Cursor) := do
  let (name, c) ← stringAt "variant identifier" c
  match Tag.ofJson? (.str name) with
  | some t => pure (t, c)
  | none => .error ((Fault.shape s!"unknown variant `{name}`, expected `ready` or `init_error`").at c.pos)

/-- The items of a lifecycle message behind its tag, as far as the closing bracket. -/
def laterItems : Nat → List Json → Cursor → Except ReadError (List Json × Cursor)
  | 0, _, c => .error (Fault.tooDeep.at c.peeked)
  | fuel + 1, taken, c => do
    let (more, c) ← nextItem false c
    if !more then pure (taken.reverse, c)
    else
      let (v, c) ← readAt innerDepth c
      laterItems fuel (v :: taken) c

/-- The tag and the other members of a lifecycle message behind the opening brace or a member. -/
def taggedMembers : Nat → Bool → Option Tag → List (String × Json) → Cursor →
    Except Stop ((Tag × Json) × Cursor)
  | 0, _, _, _, c => .error (Fault.tooDeep.at c.peeked, c)
  | fuel + 1, first, tag, taken, c => do
    let (more, c) ← stopping (nextMember first c) c
    if !more then
      match tag with
      | none => .error (.shape (missingField "type"), c)
      | some t => pure ((t, .obj taken.reverse), c)
    else
      let (key, c) ← stopping (readString c.next) c
      if key = "type" then
        if tag.isSome then .error (.shape (duplicateField "type"), c)
        let c ← stopping (readColon c) c
        let (t, c) ← stopping (tagAt c) c
        taggedMembers fuel false (some t) taken c
      else
        let c ← stopping (readColon c) c
        let (v, c) ← stopping (readAt innerDepth c) c
        taggedMembers fuel false tag ((key, v) :: taken) c

/-- The tag and the other items of a lifecycle message in array form, behind the opening bracket. -/
def taggedItems (c : Cursor) : Except Stop ((Tag × Json) × Cursor) := do
  let (more, c) ← stopping (nextItem true c) c
  if !more then .error (.shape (missingField "type"), c)
  let (t, c) ← stopping (tagAt c) c
  let (vs, c) ← stopping (laterItems c.fuel [] c) c
  pure ((t, .arr vs), c)

/-- The reason in the members behind the tag of an `init_error`. -/
def reasonOf (ms : List (String × Json)) : Except ReadError String :=
  match (ms.filter fun m => m.1 = "error").map Prod.snd with
  | [] => .error (.shape (missingField "error"))
  | [.str e] => .ok e
  | .str _ :: _ => .error (.shape (duplicateField "error"))
  | v :: _ => .error (.shape (invalidType v.described "a string"))

/-- The lifecycle message that a tag and what stands beside it make. -/
def lifecycleOf (t : Tag) (fields : Json) : Except ReadError Lifecycle :=
  match t, fields with
  | .ready, .arr [] => .ok .ready
  | .ready, .arr vs => .error (.shape (invalidLength vs.length "0 elements in sequence"))
  | .ready, _ => .ok .ready
  | .initError, .arr [] =>
    .error (.shape (invalidLength 0 "struct variant LifecycleSignal::InitError with 1 element"))
  | .initError, .arr [.str e] => .ok (.initError e)
  | .initError, .arr (.str _ :: vs) => .error (.shape (invalidLength (vs.length + 1) "1 element in sequence"))
  | .initError, .arr (v :: _) => .error (.shape (invalidType v.described "a string"))
  | .initError, .obj ms => (reasonOf ms).map .initError
  | .initError, v => .error (.shape (invalidType v.described "struct variant LifecycleSignal::InitError"))

/-- A lifecycle message at a cursor. -/
def lifecycleAt (c : Cursor) : Except ReadError (Lifecycle × Cursor) := do
  let c := c.skipSpace
  let ((t, fields), c) ← match c.rest with
    | [] => .error (Fault.endInValue.at c.peeked)
    | '[' :: _ => closed endOfList (taggedItems c.next)
    | '\x7b' :: _ => closed endOfObject (taggedMembers c.fuel true none [] c.next)
    | _ => .error (unexpectedAt c "internally tagged enum LifecycleSignal")
  let l ← lifecycleOf t fields
  pure (l, c)

/-- The whole text as one value. -/
def whole {α : Type} (item : Cursor → Reading α) (raw : String) : Except ReadError α := do
  let (a, c) ← item (.ofString raw)
  readEnd c
  pure a

/-- Reads a text that is a signal. -/
def readSignal (raw : String) : Except ReadError Signal := whole signalAt raw

/-- Reads a text that is a lifecycle message. -/
def readLifecycle (raw : String) : Except ReadError Lifecycle := whole lifecycleAt raw

/-- Reads a text that is an id. -/
def readId (raw : String) : Except ReadError InvocationId :=
  (whole (stringAt "a string") raw).map fun s => ⟨s⟩

end ScriptHost.Wire
