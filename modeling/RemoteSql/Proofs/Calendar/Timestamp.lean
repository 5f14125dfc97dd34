import Mathlib
import RemoteSql.Calendar.Timestamp
import RemoteSql.Proofs.Calendar.Date

/-!
# Instants

An instant is a number of milliseconds since the start of 1970, or before it. It is one time of one
date, counted in days of equal length, so without leap seconds.
-/

namespace RemoteSql

namespace TimeOfDay

/-- The times that a clock shows which ticks in milliseconds. -/
structure OnClock (t : TimeOfDay) : Prop where
  hour_lt : t.hour < 24
  minute_lt : t.minute < 60
  second_lt : t.second < 60
  nanosecond_lt : t.nanosecond < 1000000000
  whole : t.nanosecond % 1000000 = 0

/-- The milliseconds since midnight. -/
def millis (t : TimeOfDay) : Nat :=
  (t.hour * 3600 + t.minute * 60 + t.second) * 1000 + t.nanosecond / 1000000

/-- The time of day some milliseconds after midnight. -/
def ofMillis (n : Nat) : TimeOfDay :=
  ⟨n / 3600000, n / 60000 % 60, n / 1000 % 60, n % 1000 * 1000000⟩

variable {t : TimeOfDay} {n : Nat}

theorem OnClock.valid (h : t.OnClock) : t.Valid :=
  ⟨h.hour_lt, h.minute_lt, h.second_lt.le, h.nanosecond_lt⟩

theorem OnClock.millis_lt (h : t.OnClock) : t.millis < 86400000 := by
  obtain ⟨hhour, hminute, hsecond, hnano, -⟩ := h
  rw [millis]
  omega

theorem onClock_ofMillis (h : n < 86400000) : (ofMillis n).OnClock where
  hour_lt := by simp only [ofMillis]; omega
  minute_lt := Nat.mod_lt _ (by decide)
  second_lt := Nat.mod_lt _ (by decide)
  nanosecond_lt := by simp only [ofMillis]; omega
  whole := Nat.mul_mod_left _ _

theorem millis_ofMillis (n : Nat) : (ofMillis n).millis = n := by
  have hminutes : n / 60000 = n / 1000 / 60 := (Nat.div_div_eq_div_mul n 1000 60).symm
  have hhours : n / 3600000 = n / 60000 / 60 := (Nat.div_div_eq_div_mul n 60000 60).symm
  simp only [millis, ofMillis, hhours, hminutes]
  omega

theorem ofMillis_millis (h : t.OnClock) : ofMillis t.millis = t := by
  obtain ⟨hhour, hminute, hsecond, hnano, hwhole⟩ := h
  obtain ⟨hour, minute, second, nanosecond⟩ := t
  simp only [millis, ofMillis, TimeOfDay.mk.injEq] at *
  omega

end TimeOfDay

namespace Timestamp

/-- The timestamp of an instant: its date is on the calendar, its time is on the clock, and the days
and milliseconds before it add up. -/
structure At (millis : Int) (t : Timestamp) : Prop where
  onCalendar : t.date.OnCalendar
  onClock : t.time.OnClock
  count : ∃ days, t.date.FallsOn days ∧ millis = days * dayMillis + t.time.millis

/-- The timestamp of an instant, of whatever year. -/
def ofMillis (millis : Int) : Timestamp :=
  ⟨Date.ofDays (millis / dayMillis), TimeOfDay.ofMillis (millis % dayMillis).toNat⟩

variable {t : Timestamp} {m : Int}

theorem At.eq_add (h : At m t) : m = t.date.toDays * dayMillis + t.time.millis := by
  obtain ⟨days, hfalls, hm⟩ := h.count
  rwa [(Date.fallsOn_iff h.onCalendar).mp hfalls]

theorem at_ofMillis (m : Int) : At m (ofMillis m) where
  onCalendar := Date.onCalendar_ofDays _
  onClock := TimeOfDay.onClock_ofMillis (by simp only [dayMillis]; omega)
  count := by
    refine ⟨m / dayMillis, (Date.fallsOn_iff (Date.onCalendar_ofDays _)).mpr
      (Date.toDays_ofDays _), ?_⟩
    rw [ofMillis, TimeOfDay.millis_ofMillis]
    simp only [dayMillis]
    omega

/-- Every instant has one timestamp. -/
theorem At.eq_ofMillis (h : At m t) : t = ofMillis m := by
  have hm := h.eq_add
  have hlt := h.onClock.millis_lt
  have hdays : m / dayMillis = t.date.toDays := by
    simp only [dayMillis] at hm ⊢
    omega
  have hrest : (m % dayMillis).toNat = t.time.millis := by
    simp only [dayMillis] at hm ⊢
    omega
  rw [ofMillis, hdays, hrest, Date.ofDays_toDays h.onCalendar, TimeOfDay.ofMillis_millis h.onClock]

theorem ofEpochMillis?_eq (m : Int) :
    ofEpochMillis? m = if (ofMillis m).date.Valid then some (ofMillis m) else none := rfl

theorem At.ofEpochMillis?_eq_some (h : At m t) (h₀ : 0 ≤ t.date.year) (h₉ : t.date.year ≤ 9999) :
    ofEpochMillis? m = some t := by
  rw [ofEpochMillis?_eq, ← h.eq_ofMillis, if_pos (h.onCalendar.valid h₀ h₉)]

/-- Ten thousand years of milliseconds fit 64 bits. -/
theorem At.fits (h : At m t) (h₀ : 0 ≤ t.date.year) (h₉ : t.date.year ≤ 9999) :
    -2 ^ 63 ≤ m ∧ m < 2 ^ 63 := by
  have hm := h.eq_add
  have hlt := h.onClock.millis_lt
  have hdays := Date.toDays_eq t.date
  obtain ⟨hlow, hhigh, -⟩ := h.onCalendar.yearHas
  have hyear : -1 ≤ t.date.marchYear ∧ t.date.marchYear ≤ 9999 := by
    rw [Date.marchYear]
    omega
  simp only [Date.yearStart, Date.epochShift] at hdays
  simp only [dayMillis] at hm
  omega

end Timestamp

end RemoteSql
