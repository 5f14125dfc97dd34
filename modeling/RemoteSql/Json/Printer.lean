import RemoteSql.Json.Value

/-!
# Compact JSON text

Values are written without white space. In a string the quote, the backslash and the control
characters are escaped, the common ones by a letter; every other character stands for itself.
-/

namespace RemoteSql.Json

def hexDigit (n : Nat) : Char := Nat.digitChar (n % 16)

/-- A character as it stands between quotes. -/
def escapeChar (c : Char) : List Char :=
  if c = '"' then ['\\', '"']
  else if c = '\\' then ['\\', '\\']
  else if c = '\x08' then ['\\', 'b']
  else if c = '\x0c' then ['\\', 'f']
  else if c = '\n' then ['\\', 'n']
  else if c = '\r' then ['\\', 'r']
  else if c = '\t' then ['\\', 't']
  else if c.toNat < 0x20 then
    ['\\', 'u', '0', '0', hexDigit (c.toNat / 16), hexDigit c.toNat]
  else [c]

/-- A text in quotes. -/
def quotedChars (s : String) : List Char := '"' :: s.toList.flatMap escapeChar ++ ['"']

mutual

/-- The characters of a value's compact text. -/
def chars : Json → List Char
  | .null => ['n', 'u', 'l', 'l']
  | .bool true => ['t', 'r', 'u', 'e']
  | .bool false => ['f', 'a', 'l', 's', 'e']
  | .number literal => literal.toList
  | .string text => quotedChars text
  | .array items => '[' :: itemChars items ++ [']']
  | .object members => '{' :: memberChars members ++ ['}']

def itemChars : List Json → List Char
  | [] => []
  | [item] => chars item
  | item :: rest => chars item ++ ',' :: itemChars rest

def memberChars : List (String × Json) → List Char
  | [] => []
  | [(name, value)] => quotedChars name ++ ':' :: chars value
  | (name, value) :: rest => quotedChars name ++ ':' :: chars value ++ ',' :: memberChars rest

end

def render (v : Json) : String := String.ofList v.chars

/-- The text of a value as a field: a string as it is, no text for null, else the compact text. -/
def fieldText? : Json → Option String
  | .null => none
  | .string text => some text
  | v => some v.render

end RemoteSql.Json
