import RemoteSql.Text.Basic

/-!
# Durations
-/

namespace RemoteSql

/-- A span of time, exact to the nanosecond. -/
structure Duration where
  nanoseconds : Nat := 0
  deriving DecidableEq, Repr

namespace Duration

def ofSeconds (n : Nat) : Duration := ⟨n * 1000000000⟩

def ofMilliseconds (n : Nat) : Duration := ⟨n * 1000000⟩

def milliseconds (d : Duration) : Nat := d.nanoseconds / 1000000

/-- The units in which a duration is told, the largest first: for each, how many digits a nanosecond
is below it. -/
def units : List (Nat × String) := [(9, "s"), (6, "ms"), (3, "µs")]

/-- The digits of a fraction after its point, zeros at the end left out. -/
def fractionDigits (places n : Nat) : List Char :=
  Text.dropTrailing (· == '0') <|
    (List.range places).map fun i => Nat.digitChar (n / Nat.pow 10 (places - 1 - i) % 10)

/-- A fraction with its point, if it is not zero. -/
def fractionText (places n : Nat) : String :=
  match fractionDigits places n with
  | [] => ""
  | ds => "." ++ String.ofList ds

/-- The duration in the largest unit of which there is at least one, as exact as it takes. -/
def describe (d : Duration) : String :=
  let n := d.nanoseconds
  let (places, unit) := (units.find? fun u => Nat.pow 10 u.1 ≤ n).getD (0, "ns")
  toString (n / Nat.pow 10 places) ++ fractionText places (n % Nat.pow 10 places) ++ unit

end Duration

end RemoteSql
