import VectorReplay.Text.Mark
import VectorReplay.Text.Printable
import VectorReplay.Hex.Digit

/-!
Characters and strings in quotes, as they stand in messages: what cannot be shown is escaped.
-/
namespace VectorReplay.Text

/-- A character by its code point. -/
def codeEscape (c : Char) : List Char :=
  "\\u\x7b".toList ++ Hex.minimal c.toNat ++ ['}']

/-- The written form of one character between marks `quote`; a combining mark is escaped when
`marks` asks for it. -/
def escape (quote : Char) (marks : Bool) (c : Char) : List Char :=
  if c = '\x00' then ['\\', '0']
  else if c = '\t' then ['\\', 't']
  else if c = '\r' then ['\\', 'r']
  else if c = '\n' then ['\\', 'n']
  else if c = '\\' then ['\\', '\\']
  else if c = quote then ['\\', quote]
  else if marks && isCombining c then codeEscape c
  else if isPrintable c then [c]
  else codeEscape c

def quoteChar (c : Char) : String :=
  String.ofList ('\'' :: escape '\'' true c ++ ['\''])

def quoteString (s : String) : String :=
  String.ofList ('"' :: s.toList.flatMap (escape '"' true) ++ ['"'])

end VectorReplay.Text
