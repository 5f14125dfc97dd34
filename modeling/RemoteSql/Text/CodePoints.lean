import RemoteSql.Text.Basic
import Std.Data.HashMap

/-!
# Sets and tables of code points

A set is an array of ranges. A table is written as words of hexadecimal numbers, apart by blanks:
each word names the characters that belong to the next code point, with plus signs between them, or
is a dash when there are none. A number and an equals sign before a word say at which code point the
table goes on.
-/

namespace RemoteSql.Text

def inRanges (ranges : Array (Nat × Nat)) (n : Nat) : Bool :=
  ranges.any fun r => r.1 ≤ n && n ≤ r.2

/-- Code points with the characters that belong to each of them. -/
abbrev CodePointMap := Std.HashMap Nat (List Char)

namespace CodePointMap

/-- The number that hexadecimal digits write, the letters among them capital. -/
def number (digits : List Char) : Nat :=
  digits.foldl (fun n c => 16 * n + (c.toNat - if c.isDigit then 0x30 else 0x37)) 0

def characters (word : List Char) : List Char :=
  if word = ['-'] then [] else (splitAt '+' word).map fun digits => Char.ofNat (number digits)

/-- The code point that a word is about, and its characters, given the code point that comes
next. -/
def entry (next : Nat) (word : List Char) : Nat × List Char :=
  match splitAt '=' word with
  | [point, word] => (number point, characters word)
  | _ => (next, characters word)

/-- Adds what a word says, and passes to the next code point. -/
def addWord (table : CodePointMap × Nat) (word : List Char) : CodePointMap × Nat :=
  let (point, characters) := entry table.2 word
  (table.1.insert point characters, point + 1)

/-- The words of a text, which stand apart by spaces and line feeds. -/
def words (text : String) : List (List Char) :=
  (splitAt ' ' (text.toList.map fun c => if c = '\n' then ' ' else c)).filter (!·.isEmpty)

def ofText (text : String) : CodePointMap := ((words text).foldl addWord (∅, 0)).1

end CodePointMap

end RemoteSql.Text
