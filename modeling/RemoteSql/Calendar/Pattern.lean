import RemoteSql.Calendar.Timestamp
import RemoteSql.Decimal.Whole
import RemoteSql.Text.Basic

/-!
# Dates and timestamps in text

A pattern lists what a text is made of. White space may stand before each number. A year is up to
four digits, or any number of them after a sign; the other numbers are one or two digits. All of
the text has to be used up, and what it says has to exist.
-/

namespace RemoteSql

namespace Calendar

/-- The parts of a timestamp that a text gives. -/
inductive Part
  | year
  | month
  | day
  | hour
  | minute
  | second
  deriving DecidableEq, Repr

inductive Item
  | number (part : Part)
  | literal (c : Char)
  /-- Any run of white space, even none. -/
  | space
  /-- Nothing, or a point and digits of which nine count. -/
  | fraction
  deriving DecidableEq, Repr

structure Parts where
  year : Int := 0
  month : Nat := 0
  day : Nat := 0
  hour : Nat := 0
  minute : Nat := 0
  second : Nat := 0
  nanosecond : Nat := 0
  deriving DecidableEq, Repr

/-- The digits at the head, at least one and at most `width`. -/
def number? (width : Nat) (cs : List Char) : Option (Nat × List Char) :=
  let digits := (cs.take width).takeWhile Char.isDigit
  if digits.isEmpty then none else some (Decimal.ofDigits digits, cs.drop digits.length)

def longNumber? (cs : List Char) : Option (Nat × List Char) := number? cs.length cs

def year? : List Char → Option (Int × List Char)
  | '-' :: cs => (longNumber? cs).map fun (n, cs) => (-(n : Int), cs)
  | '+' :: cs => (longNumber? cs).map fun (n, cs) => ((n : Int), cs)
  | cs => (number? 4 cs).map fun (n, cs) => ((n : Int), cs)

/-- Digits as a fraction of a second; digits after the ninth do not count. -/
def nanoseconds (digits : List Char) : Nat :=
  let counted := digits.take 9
  Decimal.ofDigits counted * Nat.pow 10 (9 - counted.length)

def setPart (p : Parts) (n : Nat) : Part → Parts
  | .year => { p with year := n }
  | .month => { p with month := n }
  | .day => { p with day := n }
  | .hour => { p with hour := n }
  | .minute => { p with minute := n }
  | .second => { p with second := n }

def Item.read (p : Parts) (cs : List Char) : Item → Option (Parts × List Char)
  | .number .year =>
    (year? (cs.dropWhile Text.isBlank)).map fun (n, cs) => ({ p with year := n }, cs)
  | .number part =>
    (number? 2 (cs.dropWhile Text.isBlank)).map fun (n, cs) => (setPart p n part, cs)
  | .literal c =>
    match cs with
    | d :: cs => if c = d then some (p, cs) else none
    | [] => none
  | .space => some (p, cs.dropWhile Text.isBlank)
  | .fraction =>
    match cs with
    | '.' :: cs =>
      let digits := cs.takeWhile Char.isDigit
      if digits.isEmpty then none
      else some ({ p with nanosecond := nanoseconds digits }, cs.drop digits.length)
    | _ => some (p, cs)

/-- Reads the items of a pattern; nothing may remain. -/
def readPattern : List Item → Parts → List Char → Option Parts
  | [], p, cs => if cs.isEmpty then some p else none
  | item :: items, p, cs => (item.read p cs).bind fun (p, cs) => readPattern items p cs

def datePattern : List Item :=
  [.number .year, .literal '-', .number .month, .literal '-', .number .day]

def timePattern : List Item :=
  [.number .hour, .literal ':', .number .minute, .literal ':', .number .second, .fraction]

def Parts.date (p : Parts) : Date := ⟨p.year, p.month, p.day⟩

def Parts.time (p : Parts) : TimeOfDay := ⟨p.hour, p.minute, p.second, p.nanosecond⟩

def Parts.timestamp? (p : Parts) : Option Timestamp :=
  if p.date.Valid ∧ p.time.Valid then some ⟨p.date, p.time⟩ else none

end Calendar

open Calendar

def Date.parse? (s : String) : Option Date :=
  (readPattern datePattern {} s.toList).bind fun p => if p.date.Valid then some p.date else none

/-- The timestamp that a text writes, with white space or the letter T before the time. -/
def Timestamp.parse? (s : String) : Option Timestamp :=
  ((readPattern (datePattern ++ .space :: timePattern) {} s.toList).bind Parts.timestamp?).or
    ((readPattern (datePattern ++ .literal 'T' :: timePattern) {} s.toList).bind Parts.timestamp?)

end RemoteSql
