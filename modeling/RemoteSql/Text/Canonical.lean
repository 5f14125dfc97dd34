import RemoteSql.Text.CanonicalTable

/-!
# The canonical form of text

Texts that people take for the same may be written with one character or with a letter and marks.
In canonical form each character is taken apart, marks after a letter are put in the order of their
classes, and what fits together again is put together.
-/

namespace RemoteSql.Text

/-- The class by which a mark is ordered; zero for what is no mark. -/
def combiningClass (c : Char) : Nat :=
  if c.toNat < 0x300 then 0
  else
    match combiningClasses.find? fun r => r.1 ≤ c.toNat && c.toNat ≤ r.2.1 with
    | some (_, _, rank) => rank
    | none => 0

/-- The first syllable of the Korean alphabet, and the first letter that begins one, the first that
goes on with one and the place before the first that ends one. -/
def firstSyllable : Nat := 0xAC00
def firstLead : Nat := 0x1100
def firstVowel : Nat := 0x1161
def beforeTails : Nat := 0x11A7

/-- How many such letters there are in each place; a syllable may do without the last. -/
def leadCount : Nat := 19
def vowelCount : Nat := 21
def tailCount : Nat := 28

/-- The letters of a syllable of the Korean alphabet. -/
def syllableLetters? (n : Nat) : Option (List Char) :=
  if firstSyllable ≤ n ∧ n < firstSyllable + leadCount * vowelCount * tailCount then
    let index := n - firstSyllable
    let lead := Char.ofNat (firstLead + index / tailCount / vowelCount)
    let vowel := Char.ofNat (firstVowel + index / tailCount % vowelCount)
    let tail := index % tailCount
    some (if tail = 0 then [lead, vowel] else [lead, vowel, Char.ofNat (beforeTails + tail)])
  else none

/-- The syllable that a letter or a syllable makes up with the letter after it. -/
def syllable? (a b : Nat) : Option Char :=
  if firstLead ≤ a ∧ a < firstLead + leadCount ∧ firstVowel ≤ b ∧ b < firstVowel + vowelCount then
    some (Char.ofNat
      (firstSyllable + ((a - firstLead) * vowelCount + (b - firstVowel)) * tailCount))
  else if (syllableLetters? a).any (·.length = 2) ∧ beforeTails < b ∧
      b < beforeTails + tailCount then
    some (Char.ofNat (a + (b - beforeTails)))
  else none

/-- The parts of a character, taken apart no more than `depth` times. -/
def parts : Nat → Char → List Char
  | 0, c => [c]
  | depth + 1, c =>
    if c.toNat < 0xC0 then [c]
    else
      match syllableLetters? c.toNat, replacements[c.toNat]?, compositions[c.toNat]? with
      | some letters, _, _ => letters
      | none, some whole, _ => whole
      | none, none, some two => two.flatMap (parts depth)
      | none, none, none => [c]

/-- How often a character can be taken apart. -/
def partsDepth : Nat := 3

/-- Puts a mark behind a text in reverse, before the marks of a higher class. -/
def insertMark (c : Char) : List Char → List Char
  | [] => [c]
  | d :: before =>
    if combiningClass c < combiningClass d then d :: insertMark c before else c :: d :: before

/-- Puts marks in the order of their classes. What has been ordered is in reverse. -/
def orderMarks : List Char → List Char → List Char
  | done, [] => done.reverse
  | done, c :: rest =>
    orderMarks (if combiningClass c = 0 then c :: done else insertMark c done) rest

/-- The characters that two characters make up. -/
def pairs : Std.HashMap (Nat × Nat) Char :=
  compositions.fold (fun table n two =>
    match two with
    | [a, b] => table.insert (a.toNat, b.toNat) (Char.ofNat n)
    | _ => table) ∅

/-- The character that two characters make up. -/
def pair? (a b : Char) : Option Char :=
  if b.toNat < 0x300 then none
  else (syllable? a.toNat b.toNat).or pairs[(a.toNat, b.toNat)]?

/-- Puts together what follows a character that is no mark. Marks that stay are kept in reverse; the
last of them bars a character whose class is not higher. -/
def composeAfter : Char → List Char → List Char → List Char
  | letter, kept, [] => letter :: kept.reverse
  | letter, kept, c :: rest =>
    let barred := kept.head?.any fun d => combiningClass c ≤ combiningClass d
    match if barred then none else pair? letter c with
    | some whole => composeAfter whole kept rest
    | none =>
      if combiningClass c = 0 then letter :: kept.reverse ++ composeAfter c [] rest
      else composeAfter letter (c :: kept) rest

def compose : List Char → List Char
  | [] => []
  | c :: rest => if combiningClass c = 0 then composeAfter c [] rest else c :: compose rest

def canonical (cs : List Char) : List Char :=
  compose (orderMarks [] (cs.flatMap (parts partsDepth)))

end RemoteSql.Text
