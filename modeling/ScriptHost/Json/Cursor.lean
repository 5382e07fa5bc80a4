/-!
Reading positions.

A cursor is what is left of a text and the position reached. Lines count from one; a column is the
number of bytes of the line that lie before the position.
-/

namespace ScriptHost.Json

/-- A line, and the number of its bytes before the place meant. -/
structure Position where
  line : Nat
  column : Nat
deriving DecidableEq, Repr, Inhabited

namespace Position

/-- Before the first character of a text. -/
def start : Position := ⟨1, 0⟩

/-- The position behind a character. -/
def after (p : Position) (c : Char) : Position :=
  if c = '\n' then ⟨p.line + 1, 0⟩ else ⟨p.line, p.column + c.utf8Size⟩

/-- The position `n` bytes further into the text that follows, at most at its end. -/
def skip (p : Position) : Nat → List Char → Position
  | _, [] => p
  | n, c :: cs =>
    if n = 0 then p
    else if n < c.utf8Size then ⟨p.line, p.column + n⟩
    else (p.after c).skip (n - c.utf8Size) cs

/-- The position at the end of the text that follows. -/
def behind (p : Position) (cs : List Char) : Position := cs.foldl after p

end Position

/-- What is left of a text, and where it starts. -/
structure Cursor where
  rest : List Char
  pos : Position
deriving DecidableEq, Repr

namespace Cursor

/-- Before the first character of a text. -/
def ofString (s : String) : Cursor := ⟨s.toList, .start⟩

/-- The position one byte further: where a fault of the next character is reported. -/
def peeked (c : Cursor) : Position := c.pos.skip 1 c.rest

/-- The position at the end of the text. -/
def final (c : Cursor) : Position := c.pos.behind c.rest

/-- The cursor behind the next character. -/
def next (c : Cursor) : Cursor :=
  match c.rest with
  | [] => c
  | x :: xs => ⟨xs, c.pos.after x⟩

/-- The cursor behind the next `n` characters. -/
def drop : Nat → Cursor → Cursor
  | 0, c => c
  | n + 1, c => c.next.drop n

/-- The characters that may stand between the parts of a JSON text. -/
def isSpace (x : Char) : Bool := x = ' ' || x = '\n' || x = '\t' || x = '\r'

/-- Skips blanks. -/
def skipSpace (c : Cursor) : Cursor :=
  let rec go : List Char → Position → Cursor
    | [], p => ⟨[], p⟩
    | x :: xs, p => if isSpace x then go xs (p.after x) else ⟨x :: xs, p⟩
  go c.rest c.pos

end Cursor

end ScriptHost.Json
