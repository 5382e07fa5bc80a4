import ScriptHost.Text.Hidden
/-!
Quoted text: characters and strings between quotes, as diagnostics and printed collections show them.
-/

namespace ScriptHost.Text

/-- How quoted text writes one character: `quote` is the surrounding quote, which a backslash guards. -/
def quotedChar (quote c : Char) : List Char :=
  if c = Char.ofNat 0 then ['\\', '0']
  else if c = '\t' then ['\\', 't']
  else if c = '\r' then ['\\', 'r']
  else if c = '\n' then ['\\', 'n']
  else if c = '\\' || c = quote then ['\\', c]
  else if isHidden c then '\\' :: 'u' :: '\x7b' :: (Nat.toDigits 16 c.toNat ++ ['\x7d'])
  else [c]

/-- The text between double quotes. -/
def quoteString (s : String) : String :=
  String.ofList ('\"' :: (s.toList.flatMap (quotedChar '\"') ++ ['\"']))

/-- The character between single quotes. -/
def quoteChar (c : Char) : String :=
  String.ofList ('\'' :: (quotedChar '\'' c ++ ['\'']))

end ScriptHost.Text
