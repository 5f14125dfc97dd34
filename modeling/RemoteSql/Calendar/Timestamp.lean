import RemoteSql.Calendar.Date

/-!
# Timestamps

A timestamp is a date and a time of day, to the nanosecond. Second 60 is a leap second.
-/

namespace RemoteSql

structure TimeOfDay where
  hour : Nat
  minute : Nat
  second : Nat
  nanosecond : Nat
  deriving DecidableEq, Repr

structure Timestamp where
  date : Date
  time : TimeOfDay
  deriving DecidableEq, Repr

namespace TimeOfDay

def Valid (t : TimeOfDay) : Prop :=
  t.hour < 24 ∧ t.minute < 60 ∧ t.second ≤ 60 ∧ t.nanosecond < 1000000000

instance (t : TimeOfDay) : Decidable t.Valid := inferInstanceAs (Decidable (_ ∧ _))

/-- The fewest of 0, 3, 6 or 9 digits that give the nanoseconds exactly, after a point. -/
def fractionText (nanosecond : Nat) : String :=
  if nanosecond = 0 then ""
  else if nanosecond % 1000000 = 0 then "." ++ Date.padded 3 (nanosecond / 1000000)
  else if nanosecond % 1000 = 0 then "." ++ Date.padded 6 (nanosecond / 1000)
  else "." ++ Date.padded 9 nanosecond

def render (t : TimeOfDay) : String :=
  Date.padded 2 t.hour ++ ":" ++ Date.padded 2 t.minute ++ ":" ++ Date.padded 2 t.second ++
    fractionText t.nanosecond

end TimeOfDay

namespace Timestamp

def dayMillis : Int := 86400000

/-- The timestamp a number of milliseconds after the start of 1970, if its year is in range. -/
def ofEpochMillis? (millis : Int) : Option Timestamp :=
  let date := Date.ofDays (millis / dayMillis)
  let rest := (millis % dayMillis).toNat
  let time : TimeOfDay :=
    ⟨rest / 3600000, rest / 60000 % 60, rest / 1000 % 60, rest % 1000 * 1000000⟩
  if date.Valid then some ⟨date, time⟩ else none

def render (t : Timestamp) : String := t.date.render ++ " " ++ t.time.render

end Timestamp

end RemoteSql
