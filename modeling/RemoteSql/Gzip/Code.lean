import RemoteSql.Gzip.Bits

/-!
# Canonical prefix codes

A code is given by the length of each symbol's word, zero for a symbol without one. Words of one
length are consecutive numbers in the order of their symbols, and shorter words come before longer
ones, so it is enough to know how many words there are of each length and the symbols in the order
of their words.
-/

namespace RemoteSql.Gzip

structure Code where
  /-- How many words there are of length 1, 2, and so on, up to the greatest length in use. -/
  counts : List Nat
  symbols : Array Nat

namespace Code

/-- The longest word. -/
def maxLength : Nat := 15

/-- The symbols whose words have a given length. -/
def symbolsOfLength (lengths : List Nat) (length : Nat) : List Nat :=
  (lengths.zipIdx.filter fun p => p.1 == length).map Prod.snd

/-- The number of words of the greatest length that the counted words begin, scaled to a full
code. -/
def covered (counts : List Nat) : Nat := counts.foldl (fun total n => 2 * total + n) 0

/-- Whether no word is missing from a code. -/
def isFull (counts : List Nat) : Bool := covered counts == Nat.pow 2 maxLength

/-- Whether a code has no word at all, or a single one of one bit. -/
def isScant (counts : List Nat) : Bool :=
  counts.all (· == 0) || (counts.head? == some 1 && counts.tail.all (· == 0))

/-- The counts without the zeros after the greatest length in use, which is one bit at least. -/
def trimCounts : List Nat → List Nat
  | [] => []
  | n :: counts => n :: (counts.reverse.dropWhile (· == 0)).reverse

/-- The code with the given lengths. No word may be missing from it, unless a scant code is
allowed. -/
def ofLengths (scantAllowed : Bool) (lengths : List Nat) : Except Stop Code :=
  let groups := (List.range maxLength).map fun i => symbolsOfLength lengths (i + 1)
  let counts := groups.map List.length
  if isFull counts || (scantAllowed && isScant counts) then
    .ok ⟨trimCounts counts, groups.flatten.toArray⟩
  else .error .wrong

/-- Follows a word bit by bit. Of the words of the current length, `first` is the first and `index`
counts the symbols before it; `word` is what has been read, doubled. -/
def follow (symbols : Array Nat) : List Nat → Nat → Nat → Nat → Bits → Except Stop (Nat × Bits)
  | [], _, _, _, _ => .error .wrong
  | n :: counts, word, first, index, s =>
    match s.next with
    | .error e => .error e
    | .ok (bit, s) =>
      let word := word + bit
      if word < first + n then
        match symbols[index + (word - first)]? with
        | none => .error .wrong
        | some symbol => .ok (symbol, s)
      else follow symbols counts (2 * word) (2 * (first + n)) (index + n) s

def read (c : Code) (s : Bits) : Except Stop (Nat × Bits) := follow c.symbols c.counts 0 0 0 s

end Code

end RemoteSql.Gzip
