import RemoteSql.Domain.DirectionTable
import RemoteSql.Text.CodePoints

/-!
# Directions of labels

A domain that is written from right to left in some part is only legible if each of its labels runs
in one direction from its first character to its last.
-/

namespace RemoteSql.Domain

/-- How a character is written. -/
inductive Direction
  | left
  | right
  | arabicNumber
  | europeanNumber
  | neutral
  | overlaid
  deriving DecidableEq, Repr

namespace Direction

/-- The direction of a character in ASCII. -/
def ofAscii (c : Char) : Direction :=
  if c.isAlpha then .left else if c.isDigit then .europeanNumber else .neutral

def ofChar (c : Char) : Direction :=
  if c.toNat < 0x80 then ofAscii c
  else if Text.inRanges rightRanges c.toNat then .right
  else if Text.inRanges arabicNumberRanges c.toNat then .arabicNumber
  else if Text.inRanges europeanNumberRanges c.toNat then .europeanNumber
  else if Text.inRanges neutralRanges c.toNat then .neutral
  else if Text.inRanges overlaidRanges c.toNat then .overlaid
  else .left

/-- Whether a character makes a domain one that runs from right to left. -/
def turns (d : Direction) : Bool := d == .right || d == .arabicNumber

/-- Directions without the marks at the end. -/
def dropOverlaid (ds : List Direction) : List Direction :=
  (ds.reverse.dropWhile (· == .overlaid)).reverse

def runLeft (ds : List Direction) : Bool :=
  !ds.any turns && (ds.getLast?.any fun d => d == .left || d == .europeanNumber)

def runRight (ds : List Direction) : Bool :=
  !ds.contains .left &&
  !(ds.contains .arabicNumber && ds.contains .europeanNumber) &&
  (ds.getLast?.any fun d => d.turns || d == .europeanNumber)

/-- Whether characters run in the direction of the first of them, which has to be a letter. -/
def agree (ds : List Direction) : Bool :=
  match ds.head? with
  | none => true
  | some .left => runLeft (dropOverlaid ds)
  | some .right => runRight (dropOverlaid ds)
  | some _ => false

end Direction

/-- Whether labels can be read in a domain. -/
def isLegible (labels : List (List Char)) : Bool :=
  let directions := labels.map fun label => label.map Direction.ofChar
  directions.all Direction.agree || !directions.any fun ds => ds.any Direction.turns

end RemoteSql.Domain
