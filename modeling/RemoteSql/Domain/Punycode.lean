/-!
# Punycode

A label outside ASCII is written with its ASCII characters first and then the others as differences
in base 36, in ascending order of the characters. The weight of a digit adapts to the differences
before it. `decode?` undoes `encode`.
-/

namespace RemoteSql.Domain.Punycode

def digit (d : Nat) : Char := if d < 26 then Char.ofNat (0x61 + d) else Char.ofNat (0x16 + d)

/-- From which value on a digit goes on to the next one. -/
def threshold (place bias : Nat) : Nat :=
  if place ≤ bias then 1 else if bias + 26 ≤ place then 26 else place - bias

/-- Brings a difference below 456 and counts the places this takes. -/
def scale : Nat → Nat → Nat → Nat × Nat
  | 0, delta, places => (delta, places)
  | fuel + 1, delta, places =>
    if 455 < delta then scale fuel (delta / 35) (places + 36) else (delta, places)

/-- The bias after a difference. -/
def adapt (delta count : Nat) (isFirst : Bool) : Nat :=
  let delta := if isFirst then delta / 700 else delta / 2
  let (delta, places) := scale delta (delta + delta / count) 0
  places + 36 * delta / (delta + 38)

/-- A difference as digits of falling weight. -/
def digits (bias : Nat) : Nat → Nat → Nat → List Char
  | 0, _, _ => []
  | fuel + 1, place, n =>
    let t := threshold place bias
    if n < t then [digit n]
    else digit (t + (n - t) % (36 - t)) :: digits bias fuel (place + 36) ((n - t) / (36 - t))

/-- What one pass over the label carries along. -/
structure State where
  delta : Nat := 0
  bias : Nat := 72
  done : Nat
  out : List Char

/-- Passes over a label for one character: each smaller one before it adds to the difference. -/
def pass (ascii n : Nat) (s : State) (c : Nat) : State :=
  if c < n then { s with delta := s.delta + 1 }
  else if c = n then
    { delta := 0
      bias := adapt s.delta (s.done + 1) (s.done == ascii)
      done := s.done + 1
      out := s.out ++ digits s.bias (s.delta + 1) 36 s.delta }
  else s

/-- The written form of a label, without the mark before it. -/
def encode (label : List Char) : List Char :=
  let ascii := label.filter (·.toNat < 0x80)
  let others := ((label.map Char.toNat).filter (0x80 ≤ ·)).mergeSort.eraseDups
  let start : State :=
    { done := ascii.length, out := if ascii.isEmpty then [] else ascii ++ ['-'] }
  let step := fun (sn : State × Nat) n =>
    let s := { sn.1 with delta := sn.1.delta + (n - sn.2) * (sn.1.done + 1) }
    let s := label.foldl (fun s c => pass ascii.length n s c.toNat) s
    ({ s with delta := s.delta + 1 }, n + 1)
  (others.foldl step (start, 0x80)).1.out

def digitValue? (c : Char) : Option Nat :=
  if c.isLower then some (c.toNat - 0x61)
  else if c.isDigit then some (c.toNat - 0x16)
  else none

/-- What reading the differences carries along: the text so far, and of the next difference the
place at which it puts a character, counted on from the place of the last one. -/
structure Reading where
  text : List Char
  point : Nat := 0x80
  index : Nat := 0
  bias : Nat := 72
  /-- The index before the difference. -/
  start : Nat := 0
  place : Nat := 36
  weight : Nat := 1

/-- Puts the character of a whole difference into the text. -/
def Reading.insert? (r : Reading) : Option Reading :=
  let count := r.text.length + 1
  let point := r.point + r.index / count
  let index := r.index % count
  if point.isValidChar then
    some { text := r.text.insertIdx index (Char.ofNat point)
           point
           index := index + 1
           bias := adapt (r.index - r.start) count (r.start == 0)
           start := index + 1 }
  else none

/-- Reads a digit. The weight of a further one has to fit 32 bits. -/
def Reading.step? (r : Reading) (c : Char) : Option Reading := do
  let d ← digitValue? c
  let r := { r with index := r.index + d * r.weight }
  let t := threshold r.place r.bias
  let weight := r.weight * (36 - t)
  if d < t then r.insert?
  else if weight < UInt32.size then some { r with place := r.place + 36, weight }
  else none

/-- The ASCII characters of a label, and the digits after the last dash. A dash at the head sets
nothing apart. -/
def split (cs : List Char) : List Char × List Char :=
  let digits := (cs.reverse.takeWhile (· != '-')).reverse
  match cs.take (cs.length - digits.length - 1) with
  | [] => ([], cs)
  | ascii => (ascii, digits)

def decode? (cs : List Char) : Option (List Char) := do
  let (ascii, digits) := split cs
  let r ← digits.foldlM Reading.step? { text := ascii }
  if r.place = 36 ∧ ascii.all (·.toNat < 0x80) then some r.text else none

end RemoteSql.Domain.Punycode
