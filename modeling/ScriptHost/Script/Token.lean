import ScriptHost.Decimal.Binary64
import ScriptHost.Script.Place
/-!
The words of a script.
-/

namespace ScriptHost.Script

open Decimal

/-- Words with a meaning of their own. -/
inductive Keyword where
  | kTrue | kFalse | kLet | kConst | kIf | kElse | kWhile | kLoop | kFor | kIn | kBreak | kContinue
  | kReturn | kThrow | kTry | kCatch | kFn | kImport | kAs | kExport | kPrivate | kSwitch | kDo | kUntil
deriving DecidableEq, Repr

/-- The spelling of a keyword. -/
def Keyword.text : Keyword → String
  | kTrue => "true" | kFalse => "false" | kLet => "let" | kConst => "const" | kIf => "if"
  | kElse => "else" | kWhile => "while" | kLoop => "loop" | kFor => "for" | kIn => "in"
  | kBreak => "break" | kContinue => "continue" | kReturn => "return" | kThrow => "throw"
  | kTry => "try" | kCatch => "catch" | kFn => "fn" | kImport => "import" | kAs => "as"
  | kExport => "export" | kPrivate => "private" | kSwitch => "switch" | kDo => "do" | kUntil => "until"

/-- All keywords. -/
def Keyword.all : List Keyword :=
  [kTrue, kFalse, kLet, kConst, kIf, kElse, kWhile, kLoop, kFor, kIn, kBreak, kContinue, kReturn, kThrow,
    kTry, kCatch, kFn, kImport, kAs, kExport, kPrivate, kSwitch, kDo, kUntil]

/-- Signs with a meaning of their own. -/
inductive Sign where
  | leftBrace | rightBrace | leftParen | rightParen | leftBracket | rightBracket
  | unit | mapStart | comma | semicolon | colon | doubleColon | period
  | plus | minus | times | divide | modulo | power
  | shiftLeft | shiftRight | bitAnd | bitOr | bitXor
  | equals | plusEquals | minusEquals | timesEquals | divideEquals | moduloEquals
  | equal | notEqual | less | lessEqual | greater | greaterEqual
  | conj | disj | bang | range | rangeInclusive | arrow | underscore | coalesce
deriving DecidableEq, Repr

/-- The spelling of a sign. -/
def Sign.text : Sign → String
  | leftBrace => "\x7b" | rightBrace => "\x7d" | leftParen => "(" | rightParen => ")"
  | leftBracket => "[" | rightBracket => "]" | unit => "()" | mapStart => "#\x7b" | comma => ","
  | semicolon => ";" | colon => ":" | doubleColon => "::" | period => "." | plus => "+" | minus => "-"
  | times => "*" | divide => "/" | modulo => "%" | power => "**" | shiftLeft => "<<" | shiftRight => ">>"
  | bitAnd => "&" | bitOr => "|" | bitXor => "^" | equals => "=" | plusEquals => "+="
  | minusEquals => "-=" | timesEquals => "*=" | divideEquals => "/=" | moduloEquals => "%="
  | equal => "==" | notEqual => "!=" | less => "<" | lessEqual => "<=" | greater => ">"
  | greaterEqual => ">=" | conj => "&&" | disj => "||" | bang => "!" | range => ".."
  | rangeInclusive => "..=" | arrow => "=>" | underscore => "_" | coalesce => "??"

/-- All signs; one that another begins with comes after it. -/
def Sign.all : List Sign :=
  [rangeInclusive, unit, mapStart, doubleColon, power, shiftLeft, shiftRight, plusEquals, minusEquals,
    timesEquals, divideEquals, moduloEquals, equal, notEqual, lessEqual, greaterEqual, conj, disj, range,
    arrow, coalesce, leftBrace, rightBrace, leftParen, rightParen, leftBracket, rightBracket, comma,
    semicolon, colon, period, plus, minus, times, divide, modulo, bitAnd, bitOr, bitXor, equals, less,
    greater, bang]

/-- Letters that may begin a name. -/
def isNameStart (c : Char) : Bool := c.isAlpha || c = '_'

/-- Characters that may go on a name. -/
def isNameChar (c : Char) : Bool := c.isAlphanum || c = '_'

/-- Whether a text is a name: the first of its characters that is no underscore is a letter. -/
def isName (s : String) : Bool :=
  s.toList.all isNameChar && (s.toList.find? (· ≠ '_')).any Char.isAlpha

/-- Words that scripts may not use as names. -/
def reservedWords : List String :=
  ["var", "static", "shared", "is", "goto", "exit", "match", "case", "default", "public", "protected",
    "new", "use", "with", "module", "package", "super", "thread", "spawn", "go", "await", "async", "sync",
    "yield", "null", "nil", "void"]

/-- Words that name functions and may stand nowhere else. -/
def reservedFunctions : List String :=
  ["print", "debug", "type_of", "eval", "Fn", "call", "curry", "is_shared", "is_def_fn", "is_def_var", "this"]

/-- Those of them that name methods too. -/
def reservedMethods : List String := ["type_of", "call", "curry", "is_shared"]

/-- Signs without a meaning; one that another begins with comes after it. -/
def reservedSigns : List String :=
  ["===", "!==", "...", "::<", "->", "<-", ":=", ":;", "++", "--", "(*", "*)", "#!", "# \x7b", "<|", "|>", "!.", "@",
    "$", "#", "~", "?"]

/-- Signs of other languages, and what is said about them. -/
def foreignSigns : List (String × String) :=
  [("===", "'===' is not a valid operator. This is not JavaScript! Should it be '=='?"),
    ("!==", "'!==' is not a valid operator. This is not JavaScript! Should it be '!='?"),
    ("->", "'->' is not a valid symbol. This is not C or C++!"),
    ("<-", "'<-' is not a valid symbol. This is not Go! Should it be '<='?"),
    (":=", "':=' is not a valid assignment operator. This is not Go or Pascal! Should it be simply '='?"),
    (":;", "':;' is not a valid symbol. Should it be '::'?"),
    ("::<", "'::<>' is not a valid symbol. This is not Rust! Should it be '::'?"),
    ("(*", "'(* .. *)' is not a valid comment format. This is not Pascal! Should it be '/* .. */'?"),
    ("*)", "'(* .. *)' is not a valid comment format. This is not Pascal! Should it be '/* .. */'?"),
    ("# \x7b", "'#' is not a valid symbol. Should it be '#\x7b'?")]

/-- Whether the language has a use of its own for a word or sign. -/
def isReserved (s : String) : Bool :=
  reservedWords.contains s || reservedFunctions.contains s || reservedSigns.contains s || s = "_"
    || (Keyword.all.any fun k => k.text = s) || Sign.all.any fun k => k.text = s

/-- Why characters are no word. -/
inductive LexFault where
  | unterminatedString
  | stringTooLong (limit : Nat)
  | malformedChar (text : String)
  | malformedEscape (text : String)
  | malformedNumber (text : String)
  | malformedName (text : String)
  | unexpected (text : String)
  /-- a sign of another language -/
  | foreign (advice : String)
deriving DecidableEq, Repr

/-- The wording of a fault. -/
def LexFault.message : LexFault → String
  | unterminatedString => "Open string is not terminated"
  | stringTooLong limit => s!"Length of string exceeds the maximum limit ({limit})"
  | malformedChar s => s!"Invalid character: '{s}'"
  | malformedEscape s => s!"Invalid escape sequence: '{s}'"
  | malformedNumber s => s!"Invalid number: '{s}'"
  | malformedName s => s!"Variable name is not proper: '{s}'"
  | unexpected s => s!"Unexpected '{s}'"
  | foreign advice => advice

/-- A word of a script. -/
inductive Token where
  | int (n : Int)
  | float (x : Binary64)
  | char (c : Char)
  | str (s : String)
  /-- a stretch of a text behind which an expression is put in -/
  | stretch (s : String)
  | name (s : String)
  | word (k : Keyword)
  | sign (s : Sign)
  /-- a word or sign that may not be used -/
  | reserved (s : String)
  | bad (f : LexFault)
  | final
deriving DecidableEq, Repr

/-- Whether a minus behind a word may be the sign of a number. -/
def Token.precedesSign : Token → Bool
  | .word k => [Keyword.kIf, .kWhile, .kUntil, .kIn, .kReturn, .kThrow].contains k
  | .sign s =>
    !([Sign.rightBrace, .rightParen, .rightBracket, .unit, .mapStart, .doubleColon, .period, .arrow,
      .underscore].contains s)
  | _ => false

/-- A word and the place of its first character. -/
structure Placed where
  token : Token
  place : Place
deriving DecidableEq, Repr

end ScriptHost.Script
