/-!
# Text

Texts are compared whatever the case of their ASCII letters, cut at a mark, and trimmed of the
characters with the Unicode property White_Space.
-/

namespace RemoteSql.Text

def eqIgnoreCase (s t : String) : Bool := s.toList.map Char.toLower == t.toList.map Char.toLower

@[simp] theorem eqIgnoreCase_self (s : String) : eqIgnoreCase s s = true := by
  simp [eqIgnoreCase]

/-- Cuts a text at each mark. -/
def splitAt (mark : Char) : List Char → List (List Char)
  | [] => [[]]
  | c :: rest =>
    if c = mark then [] :: splitAt mark rest
    else
      match splitAt mark rest with
      | [] => [[c]]
      | part :: parts => (c :: part) :: parts

/-- The property White_Space. -/
def isBlank (c : Char) : Bool :=
  let n := c.toNat
  (0x09 ≤ n && n ≤ 0x0D) || n == 0x20 || n == 0x85 || n == 0xA0 || n == 0x1680 ||
  (0x2000 ≤ n && n ≤ 0x200A) || n == 0x2028 || n == 0x2029 || n == 0x202F || n == 0x205F ||
  n == 0x3000

/-- Text without the characters of a kind at its end. -/
def dropTrailing (p : Char → Bool) (cs : List Char) : List Char := (cs.reverse.dropWhile p).reverse

def trimEndChars (cs : List Char) : List Char := dropTrailing isBlank cs

def trimChars (cs : List Char) : List Char := trimEndChars (cs.dropWhile isBlank)

def trim (s : String) : String := String.ofList (trimChars s.toList)

def trimEnd (s : String) : String := String.ofList (trimEndChars s.toList)

/-- A text of blanks alone, the empty text included. -/
def isAllBlank (s : String) : Bool := s.toList.all isBlank

end RemoteSql.Text
