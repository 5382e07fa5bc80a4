/-!
Places in a script.
-/

namespace ScriptHost.Script

/-- A character of a script: its line and its number in the line, both counted from one. -/
structure Place where
  line : Nat
  column : Nat
deriving DecidableEq, Repr, Inhabited

namespace Place

/-- The first character. -/
def first : Place := ⟨1, 1⟩

/-- No place: of what is not there. -/
def nowhere : Place := ⟨0, 0⟩

/-- The place behind a character that stands here. -/
def after (p : Place) (c : Char) : Place :=
  if c = '\n' then ⟨p.line + 1, 1⟩ else ⟨p.line, p.column + 1⟩

/-- How messages name a place. -/
def text (p : Place) : String := s!"line {p.line}, position {p.column}"

end Place

end ScriptHost.Script
