import ScriptHost.Json.Cursor
/-!
Why a text cannot be read, and how that is said.
-/

namespace ScriptHost.Json

/-- Why a text is not the JSON that was looked for. -/
inductive Fault where
  | endInValue
  | endInList
  | endInObject
  | endInString
  | expectedValue
  | expectedIdent
  | expectedColon
  | expectedCommaOrBracket
  | expectedCommaOrBrace
  | keyNotString
  | trailingComma
  | trailingCharacters
  | invalidNumber
  | numberOutOfRange
  | invalidEscape
  | endInHexEscape
  | loneSurrogate
  | controlCharacter
  | tooDeep
  /-- well-formed JSON of another shape -/
  | shape (message : String)
deriving DecidableEq, Repr

/-- The wording of a fault. -/
def Fault.message : Fault → String
  | endInValue => "EOF while parsing a value"
  | endInList => "EOF while parsing a list"
  | endInObject => "EOF while parsing an object"
  | endInString => "EOF while parsing a string"
  | expectedValue => "expected value"
  | expectedIdent => "expected ident"
  | expectedColon => "expected `:`"
  | expectedCommaOrBracket => "expected `,` or `]`"
  | expectedCommaOrBrace => "expected `,` or `\x7d`"
  | keyNotString => "key must be a string"
  | trailingComma => "trailing comma"
  | trailingCharacters => "trailing characters"
  | invalidNumber => "invalid number"
  | numberOutOfRange => "number out of range"
  | invalidEscape => "invalid escape"
  | endInHexEscape => "unexpected end of hex escape"
  | loneSurrogate => "lone leading surrogate in hex escape"
  | controlCharacter => "control character (\\u0000-\\u001F) found while parsing a string"
  | tooDeep => "recursion limit exceeded"
  | shape message => message

/-- A fault, and where it was found if that is known. -/
structure ReadError where
  fault : Fault
  pos : Option Position
deriving DecidableEq, Repr

namespace ReadError

/-- The fault and its place. -/
def message (e : ReadError) : String :=
  match e.pos with
  | none => e.fault.message
  | some p => s!"{e.fault.message} at line {p.line} column {p.column}"

/-- The error with a place if it has none. -/
def orAt (e : ReadError) (p : Position) : ReadError := ⟨e.fault, some (e.pos.getD p)⟩

end ReadError

/-- A fault found at a position. -/
def Fault.at (f : Fault) (p : Position) : ReadError := ⟨f, some p⟩

/-- Well-formed JSON of another shape, found at no particular place. -/
def ReadError.shape (message : String) : ReadError := ⟨.shape message, none⟩

/-- What a reader returns: a result and the cursor behind it, or why there is none. -/
abbrev Reading (α : Type) := Except ReadError (α × Cursor)

end ScriptHost.Json
