import RemoteSql.Text.CodePoints
import RemoteSql.Text.HiddenTable

/-!
# Quoted text for people

A text between quotes, as descriptions of values show it. Quotes and backslashes are escaped, and
so are the common control characters; a character without a glyph of its own is shown by its
number.
-/

namespace RemoteSql.Text

/-- Whether a character is shown by its number. -/
def isHidden (c : Char) : Bool := c.toNat < 0x20 || inRanges hiddenRanges c.toNat

/-- A character as it stands between quotes. -/
def quotedChar (c : Char) : List Char :=
  if c = '"' ∨ c = '\\' then ['\\', c]
  else if c = '\n' then ['\\', 'n']
  else if c = '\r' then ['\\', 'r']
  else if c = '\t' then ['\\', 't']
  else if c.toNat = 0 then ['\\', '0']
  else if isHidden c then '\\' :: 'u' :: '{' :: Nat.toDigits 16 c.toNat ++ ['}']
  else [c]

def quoted (s : String) : String :=
  String.ofList ('"' :: s.toList.flatMap quotedChar ++ ['"'])

/-- Texts between quotes, separated by commas in square brackets. -/
def quotedList (ss : List String) : String := "[" ++ ", ".intercalate (ss.map quoted) ++ "]"

end RemoteSql.Text
