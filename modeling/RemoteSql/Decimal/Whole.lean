/-!
# Whole numbers in decimal

A whole number is one or more ASCII digits after at most one sign; an unsigned number takes no
minus. A reader for a width refuses what does not fit, it never wraps.
-/

namespace RemoteSql.Decimal

def pushDigit (n : Nat) (c : Char) : Nat := n * 10 + (c.toNat - '0'.toNat)

def ofDigits (cs : List Char) : Nat := cs.foldl pushDigit 0

/-- One or more digits and nothing else. -/
def digits? (cs : List Char) : Option Nat :=
  if !cs.isEmpty && cs.all Char.isDigit then some (ofDigits cs) else none

def unsigned? : List Char → Option Nat
  | '+' :: cs => digits? cs
  | cs => digits? cs

def signed? : List Char → Option Int
  | '-' :: cs => (digits? cs).map fun n => -(n : Int)
  | cs => (unsigned? cs).map fun n => (n : Int)

/-- Whether a number fits a two's complement word. -/
def FitsSigned (bits : Nat) (n : Int) : Prop :=
  -(Nat.pow 2 (bits - 1) : Int) ≤ n ∧ n < Nat.pow 2 (bits - 1)

instance (bits : Nat) (n : Int) : Decidable (FitsSigned bits n) :=
  inferInstanceAs (Decidable (_ ∧ _))

def readSigned? (bits : Nat) (s : String) : Option Int :=
  (signed? s.toList).filter fun n => decide (FitsSigned bits n)

def readUnsigned? (bits : Nat) (s : String) : Option Nat :=
  (unsigned? s.toList).filter fun n => decide (n < Nat.pow 2 bits)

theorem readSigned?_eq_some_iff {bits : Nat} {s : String} {n : Int} :
    readSigned? bits s = some n ↔ signed? s.toList = some n ∧ FitsSigned bits n := by
  simp [readSigned?, Option.filter_eq_some_iff]

end RemoteSql.Decimal
