import RemoteSql.Domain.Direction
import RemoteSql.Domain.Joining
import RemoteSql.Domain.MappingTable
import RemoteSql.Domain.Punycode
import RemoteSql.Text.MarkTable

/-!
# Domains

The name of a host is mapped character by character, put into canonical form and cut into labels at
its points. Domains do not tell capitals from small letters, nor a letter from its variants: each
character is replaced by what stands for all of its kind, which may be nothing, and some are not
allowed at all.

A label has a form that people read and a form in ASCII. The latter is the same for a label in
ASCII; for any other it is the label in Punycode, after four characters that announce it.
-/

namespace RemoteSql.Domain

/-- What stands in a domain for a character, unless no domain holds it. -/
def mapped? (c : Char) : Option (List Char) :=
  if c.toNat < 0x80 then some [c.toLower]
  else if Text.inRanges disallowedRanges c.toNat then none
  else some (mappings.getD c.toNat [c])

def isSettled (c : Char) : Bool := mapped? c == some [c]

namespace Label

def isAscii (label : List Char) : Bool := label.all (·.toNat < 0x80)

/-- The characters before a label in Punycode. -/
def announcement : List Char := "xn--".toList

/-- The longest label beyond ASCII, and the longest text in Punycode. -/
def maxLength : Nat := 1000
def maxWrittenLength : Nat := 2000

/-- Whether a character belongs to the one before it. -/
def isMark (c : Char) : Bool := 0x300 ≤ c.toNat && Text.inRanges Text.markRanges c.toNat

/-- Whether a label begins and joins as a label may. -/
def isWellFormed (label : List Char) : Bool :=
  !label.head?.any isMark && joinersFit [] label && (isAscii label || label.length ≤ maxLength)

/-- The label that a text in Punycode writes. It has some character beyond ASCII, and none that
another one stands for. -/
def ofPunycode? (written : List Char) : Option (List Char) := do
  let label ← if written.length ≤ maxWrittenLength then Punycode.decode? written else none
  if isAscii label || !label.all isSettled || Text.canonical label != label then none
  else some label

def ofText? (text : List Char) : Option (List Char) := do
  let label ←
    if announcement.isPrefixOf text then ofPunycode? (text.drop announcement.length)
    else some text
  if isWellFormed label then some label else none

def written (label : List Char) : List Char :=
  if isAscii label then label else announcement ++ Punycode.encode label

end Label

def labels? (name : List Char) : Option (List (List Char)) := do
  let mapped ← name.mapM mapped?
  let labels ← (Text.splitAt '.' (Text.canonical mapped.flatten)).mapM Label.ofText?
  if isLegible labels then some labels else none

def written? (name : List Char) : Option (List Char) :=
  (labels? name).map fun labels => ['.'].intercalate (labels.map Label.written)

end RemoteSql.Domain
