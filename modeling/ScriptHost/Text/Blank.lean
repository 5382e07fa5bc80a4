/-!
Blank characters, trimming, and cutting a text at the first occurrence of a character.
-/

namespace ScriptHost.Text

/-- The characters with the property White_Space. -/
def isBlank (c : Char) : Bool :=
  let n := c.toNat
  (9 ≤ n && n ≤ 13) || n == 0x20 || n == 0x85 || n == 0xA0 || n == 0x1680 || (0x2000 ≤ n && n ≤ 0x200A)
    || n == 0x2028 || n == 0x2029 || n == 0x202F || n == 0x205F || n == 0x3000

/-- The characters without the blanks at both ends. -/
def trimmed (cs : List Char) : List Char :=
  ((cs.dropWhile isBlank).reverse.dropWhile isBlank).reverse

/-- The text without the blanks at both ends. -/
def trim (s : String) : String := String.ofList (trimmed s.toList)

/-- What stands before and after the first `sep`; all of it and nothing if there is none. -/
def cutList (sep : Char) : List Char → List Char × List Char
  | [] => ([], [])
  | c :: cs => if c = sep then ([], cs) else
    let (before, after) := cutList sep cs
    (c :: before, after)

/-- `cutList` on text. -/
def cut (sep : Char) (s : String) : String × String :=
  let (before, after) := cutList sep s.toList
  (String.ofList before, String.ofList after)

/-- The offset in bytes of the first `c` of a text, counted from `start`. -/
def offsetFrom? (c : Char) (start : Nat) : List Char → Option Nat
  | [] => none
  | d :: ds => if d = c then some start else offsetFrom? c (start + d.utf8Size) ds

/-- The offset in bytes of the first `c`. -/
def offset? (c : Char) (s : String) : Option Nat := offsetFrom? c 0 s.toList

/-- The characters with every occurrence of `pattern` replaced by `subst`, from left to right; an empty
pattern stands nowhere. The number bounds how many places are looked at. -/
def replaceList (pattern subst : List Char) : Nat → List Char → List Char
  | 0, cs => cs
  | _ + 1, [] => []
  | n + 1, c :: cs =>
    if !pattern.isEmpty && pattern.isPrefixOf (c :: cs)
    then subst ++ replaceList pattern subst n ((c :: cs).drop pattern.length)
    else c :: replaceList pattern subst n cs

/-- The text with every occurrence of `pattern` replaced by `subst`, from left to right. -/
def replace (pattern subst s : String) : String :=
  String.ofList (replaceList pattern.toList subst.toList s.toList.length s.toList)

end ScriptHost.Text
