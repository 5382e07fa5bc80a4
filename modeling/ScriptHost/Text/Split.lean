import ScriptHost.Text.Blank
/-!
Splitting a text into pieces.
-/

namespace ScriptHost.Text

/-- The pieces between the places where `sep` stands, from left to right; `piece` holds the characters of
the first piece read so far, last first. The number bounds how many places are looked at. -/
def splitList (sep : List Char) : Nat → (piece : List Char) → List Char → List (List Char)
  | 0, piece, cs => [piece.reverse ++ cs]
  | _ + 1, piece, [] => [piece.reverse]
  | n + 1, piece, c :: cs =>
    if sep.isPrefixOf (c :: cs) then piece.reverse :: splitList sep n [] ((c :: cs).drop sep.length)
    else splitList sep n (c :: piece) cs

/-- The pieces of a text between the places where `sep` stands. The empty text stands before, between
and behind all characters; a text without any is one piece. -/
def split (sep s : String) : List String :=
  if s.isEmpty then [""]
  else if sep.isEmpty then "" :: (s.toList.map String.singleton ++ [""])
  else (splitList sep.toList (s.length + 1) [] s.toList).map String.ofList

/-- As `split`, but at most `n` pieces, and at least one: the last one is all the rest. -/
def splitAtMost (n : Nat) (sep s : String) : List String :=
  let pieces := split sep s
  if pieces.length ≤ n then pieces
  else pieces.take (n - 1) ++ [sep.intercalate (pieces.drop (n - 1))]

/-- The two parts of a text before and behind a place. Places count from the start if they are positive,
and otherwise back from the end. -/
def cutAt (place : Int) (s : String) : List String :=
  let n := if 0 < place then place.toNat else s.length - place.natAbs
  [String.ofList (s.toList.take n), String.ofList (s.toList.drop n)]

/-- The pieces of a text between its blanks; none is empty, unless the text is. -/
def words (s : String) : List String :=
  let step (c : Char) (acc : List (List Char)) : List (List Char) :=
    if isBlank c then [] :: acc
    else match acc with
      | [] => [[c]]
      | w :: ws => (c :: w) :: ws
  if s.isEmpty then [""] else ((s.toList.foldr step [[]]).filter (!·.isEmpty)).map String.ofList

end ScriptHost.Text
