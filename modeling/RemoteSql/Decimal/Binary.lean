import RemoteSql.Decimal.Whole
import RemoteSql.Text.Basic

/-!
# Binary floating point from decimal text

A decimal is read exactly, as a quotient of whole numbers, and rounded once to the nearest number
of the format, a tie going to the even one. What is too large becomes infinite.
-/

namespace RemoteSql.Decimal

structure BinaryFormat where
  /-- Bits of the significand, the hidden one included. -/
  precision : Nat
  /-- The exponent of the lowest bit of the smallest number. -/
  minExponent : Int
  /-- The largest value of the exponent field, which marks infinities and NaN. -/
  maxField : Nat
  deriving DecidableEq, Repr

def single : BinaryFormat := ⟨24, -149, 255⟩

def double : BinaryFormat := ⟨53, -1074, 2047⟩

namespace BinaryFormat

variable (f : BinaryFormat)

/-- The field that starts above the fraction. -/
def unit : Nat := Nat.pow 2 (f.precision - 1)

def infinity : Nat := f.maxField * f.unit

def nan : Nat := f.infinity + f.unit / 2

def signBit : Nat := (f.maxField + 1) * f.unit

/-- The greatest `e` with `2 ^ e ≤ num / den`. -/
def binaryExponent (num den : Nat) : Int :=
  let estimate : Int := num.log2 - den.log2
  let reached := if 0 ≤ estimate then den * Nat.pow 2 estimate.toNat ≤ num
    else den ≤ num * Nat.pow 2 (-estimate).toNat
  if reached then estimate else estimate - 1

/-- A quotient rounded to a whole number, a tie going to the even one. -/
def roundDiv (num den : Nat) : Nat :=
  let q := num / den
  let twice := 2 * (num % den)
  if twice < den then q
  else if den < twice then q + 1
  else if q % 2 = 0 then q else q + 1

/-- The bits of the number nearest to a positive quotient. -/
def ofQuotient (num den : Nat) : Nat :=
  let q := max (binaryExponent num den - (f.precision - 1 : Nat)) f.minExponent
  let significand := if 0 ≤ q then roundDiv num (den * Nat.pow 2 q.toNat)
    else roundDiv (num * Nat.pow 2 (-q).toNat) den
  min ((q - f.minExponent).toNat * f.unit + significand) f.infinity

/-- The decimal exponents beyond which every number rounds to infinity or to zero. -/
def cutoff : Nat := 400

/-- The bits of the number nearest to `digits · 10 ^ exponent`. -/
def ofDecimal (digits : List Char) (exponent : Int) : Nat :=
  let significant := digits.dropWhile (· == '0')
  if significant.isEmpty then 0
  else
    let magnitude := (significant.length : Int) + exponent
    if (cutoff : Int) < magnitude then f.infinity
    else if magnitude < -(cutoff : Int) then 0
    else
      let n := ofDigits significant
      if 0 ≤ exponent then f.ofQuotient (n * Nat.pow 10 exponent.toNat) 1
      else f.ofQuotient n (Nat.pow 10 (-exponent).toNat)

/-- An exponent with its mark, or nothing. -/
def readExponent? : List Char → Option Int
  | [] => some 0
  | c :: cs => if c == 'e' || c == 'E' then signed? cs else none

/-- The bits of a number without sign. There is a digit before the point or after it. -/
def readMagnitude? (cs : List Char) : Option Nat :=
  let whole := cs.takeWhile Char.isDigit
  let rest := cs.dropWhile Char.isDigit
  let (fraction, rest) := match rest with
    | '.' :: rest => (rest.takeWhile Char.isDigit, rest.dropWhile Char.isDigit)
    | rest => ([], rest)
  if whole.isEmpty && fraction.isEmpty then none
  else (readExponent? rest).map fun exponent =>
    f.ofDecimal (whole ++ fraction) (exponent - fraction.length)

/-- The bits of a number without sign, or of a word for infinity or NaN in any case. -/
def readUnsigned? (cs : List Char) : Option Nat :=
  let word := String.ofList (cs.map Char.toLower)
  if word = "inf" ∨ word = "infinity" then some f.infinity
  else if word = "nan" then some f.nan
  else f.readMagnitude? cs

def read? (s : String) : Option Nat :=
  match s.toList with
  | '+' :: cs => f.readUnsigned? cs
  | '-' :: cs => (f.readUnsigned? cs).map (· + f.signBit)
  | cs => f.readUnsigned? cs

def isNaN (bits : Nat) : Bool := f.infinity < bits % f.signBit

end BinaryFormat

end RemoteSql.Decimal
