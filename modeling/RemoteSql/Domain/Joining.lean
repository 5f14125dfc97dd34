import RemoteSql.Domain.JoiningTable
import RemoteSql.Text.Canonical

/-!
# Joiners

Two characters that are not seen say whether the letters around them join. They stand in a label
where they make a difference: after the mark that takes a letter's vowel away, and one of them also
between two letters that would join without it.
-/

namespace RemoteSql.Domain

/-- Whether letters join through a character. -/
def isTransparent (c : Char) : Bool := Text.inRanges transparentRanges c.toNat

def joinsNext (c : Char) : Bool :=
  Text.inRanges dualJoiningRanges c.toNat || Text.inRanges leftJoiningRanges c.toNat

def joinsPrevious (c : Char) : Bool :=
  Text.inRanges dualJoiningRanges c.toNat || Text.inRanges rightJoiningRanges c.toNat

/-- Whether a mark takes away the vowel of the letter before it. -/
def isVirama (c : Char) : Bool := Text.combiningClass c == 9

/-- Whether the letters around a place would join, given what stands before it in reverse. -/
def wouldJoin (before after : List Char) : Bool :=
  (before.dropWhile isTransparent).head?.any joinsNext &&
  (after.dropWhile isTransparent).head?.any joinsPrevious

/-- Whether a character may stand between two texts, the first of them in reverse. -/
def mayStand (before : List Char) (c : Char) (after : List Char) : Bool :=
  if c.toNat = 0x200C then before.head?.any isVirama || wouldJoin before after
  else if c.toNat = 0x200D then before.head?.any isVirama
  else true

/-- Whether every joiner may stand where it does, given what stands before in reverse. -/
def joinersFit : List Char → List Char → Bool
  | _, [] => true
  | before, c :: after => mayStand before c after && joinersFit (c :: before) after

end RemoteSql.Domain
