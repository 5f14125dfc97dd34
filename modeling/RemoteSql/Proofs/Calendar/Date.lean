import Mathlib
import RemoteSql.Calendar.Date

/-!
# The calendar

The count of days is that of the calendar: it starts on 1 January 1970 and goes up by one from each
date to the next. Every number of days is the count of one date, which is found from it.

A cycle of 400 years is divided into centuries, fours of years and years. The years start in March,
so the last century of a cycle, the last four of a leap century and the last year of a four have one
day more than the others.
-/

namespace RemoteSql.Date

/-- The dates that the calendar has, of whatever year. -/
def OnCalendar (d : Date) : Prop :=
  1 ≤ d.month ∧ d.month ≤ 12 ∧ 1 ≤ d.day ∧ d.day ≤ daysInMonth d.year d.month

theorem OnCalendar.valid {d : Date} (h : d.OnCalendar) (h₀ : 0 ≤ d.year) (h₉ : d.year ≤ 9999) :
    d.Valid :=
  ⟨le_trans (by decide) h₀, h₉.trans (by decide), h⟩

/-- The date after a date. -/
def next (d : Date) : Date :=
  if d.day < daysInMonth d.year d.month then { d with day := d.day + 1 }
  else if d.month < 12 then ⟨d.year, d.month + 1, 1⟩
  else ⟨d.year + 1, 1, 1⟩

def epoch : Date := ⟨1970, 1, 1⟩

/-- The date is so many days after 1 January 1970, or before it. -/
def FallsOn (days : Int) (d : Date) : Prop :=
  ∃ a b : Nat, days = a - b ∧ next^[a] epoch = next^[b] d

section Cycle

/-- A day of a cycle of 400 years. -/
structure CycleDay where
  century : Int
  fours : Int
  year : Int
  day : Int
  century_mem : 0 ≤ century ∧ century ≤ 3
  fours_mem : 0 ≤ fours ∧ fours ≤ 24
  year_mem : 0 ≤ year ∧ year ≤ 3
  day_mem : 0 ≤ day ∧ day ≤ 365
  leap : day = 365 → year = 3 ∧ (fours = 24 → century = 3)

namespace CycleDay

variable (k : CycleDay)

def yearOfCycle : Int := 100 * k.century + 4 * k.fours + k.year

/-- The days of the cycle before the day. -/
def index : Int := 36524 * k.century + 1461 * k.fours + 365 * k.year + k.day

theorem index_eq : k.index =
    k.yearOfCycle * 365 + k.yearOfCycle / 4 - k.yearOfCycle / 100 + k.day := by
  obtain ⟨c, q, s, d, hc, hq, hs, hd, hleap⟩ := k
  simp only [index, yearOfCycle]
  have hfours : (100 * c + 4 * q + s) / 4 = 25 * c + q := by omega
  have hcenturies : (100 * c + 4 * q + s) / 100 = c := by omega
  omega

theorem index_mem : 0 ≤ k.index ∧ k.index < cycle := by
  obtain ⟨c, q, s, d, hc, hq, hs, hd, hleap⟩ := k
  simp only [index, cycle]
  omega

/-- The year of a day, when the leap days before it are taken out of the count. -/
theorem year_of_index :
    (k.index - k.index / 1460 + k.index / 36524 - k.index / 146096) / 365 = k.yearOfCycle := by
  obtain ⟨c, q, s, d, hc, hq, hs, hd, hleap⟩ := k
  simp only [index, yearOfCycle]
  generalize hn : 36524 * c + 1461 * q + 365 * s + d = n
  have hcenturies : n / 36524 - n / 146096 = c := by
    by_cases hlast : n = 146096
    · subst hlast
      omega
    · have hnone : n / 146096 = 0 := by omega
      have hcentury : n / 36524 = c := by omega
      omega
  -- The leap day of a four, if the day is past it.
  have hfours : n / 1460 = 25 * c + q + (24 * c + q + 365 * s + d) / 1460 := by omega
  have hday : 0 ≤ d - (24 * c + q + 365 * s + d) / 1460 ∧
      d - (24 * c + q + 365 * s + d) / 1460 ≤ 364 := by omega
  have hcount : n - n / 1460 + n / 36524 - n / 146096 =
      d - (24 * c + q + 365 * s + d) / 1460 + 365 * (100 * c + 4 * q + s) := by
    linarith only [hn, hcenturies, hfours]
  rw [hcount, Int.add_mul_ediv_left _ _ (by decide), Int.ediv_eq_zero_of_lt hday.1 (by omega),
    Int.zero_add]

theorem exists_index_eq {n : Int} (h₀ : 0 ≤ n) (h₁ : n < cycle) : ∃ k : CycleDay, k.index = n := by
  simp only [cycle] at h₁
  obtain ⟨c, r, hc, hr, hn, hlong⟩ : ∃ c r : Int, (0 ≤ c ∧ c ≤ 3) ∧ (0 ≤ r ∧ r ≤ 36524) ∧
      n = 36524 * c + r ∧ (r = 36524 → c = 3) := by
    by_cases hlast : n = 146096
    · exact ⟨3, 36524, by omega⟩
    · exact ⟨n / 36524, n % 36524, by omega⟩
  obtain ⟨s, d, hs, hd, hrest, hleap⟩ : ∃ s d : Int, (0 ≤ s ∧ s ≤ 3) ∧ (0 ≤ d ∧ d ≤ 365) ∧
      r % 1461 = 365 * s + d ∧ (d = 365 → s = 3) := by
    by_cases hlast : r % 1461 = 1460
    · exact ⟨3, 365, by omega⟩
    · exact ⟨r % 1461 / 365, r % 1461 % 365, by omega⟩
  refine ⟨⟨c, r / 1461, s, d, hc, by omega, hs, hd, by omega⟩, ?_⟩
  simp only [index]
  omega

end CycleDay

end Cycle

section March

/-- The year in which a date falls if years start in March. -/
def marchYear (d : Date) : Int := if d.month ≤ 2 then d.year - 1 else d.year

/-- The months since March. -/
def marchMonth (d : Date) : Int := (d.month + 9) % 12

/-- The days before a month in a year that starts in March. -/
def monthStart (month : Int) : Int := (153 * month + 2) / 5

/-- The days from 1 March of year 0 to 1 March of a year. -/
def yearStart (year : Int) : Int := 365 * year + year / 4 - year / 100 + year / 400

/-- The days since 1 March. -/
def dayOfYear (d : Date) : Int := monthStart d.marchMonth + d.day - 1

/-- The date of a day in a year that starts in March. -/
def ofMarch (year dayOfYear : Int) : Date :=
  let month := (5 * dayOfYear + 2) / 153
  let civilMonth := if month < 10 then month + 3 else month - 9
  ⟨if civilMonth ≤ 2 then year + 1 else year, civilMonth.toNat,
    (dayOfYear - monthStart month + 1).toNat⟩

/-- A year that starts in March has a leap day, its last, if the next year is a leap year. -/
def YearHas (year dayOfYear : Int) : Prop :=
  0 ≤ dayOfYear ∧ dayOfYear ≤ 365 ∧ (dayOfYear = 365 → isLeapYear (year + 1) = true)

variable {d : Date} {y x : Int}

theorem isLeapYear_iff (year : Int) :
    isLeapYear year = true ↔ year % 4 = 0 ∧ year % 100 ≠ 0 ∨ year % 400 = 0 := by
  simp [isLeapYear]

theorem daysInMonth_two (year : Int) :
    daysInMonth year 2 = if isLeapYear year then 29 else 28 := rfl

/-- A month other than February lasts until the next one starts. -/
theorem daysInMonth_eq (year : Int) {month : Nat} (h₁ : 1 ≤ month) (h₁₂ : month ≤ 12)
    (h : month ≠ 2) : (daysInMonth year month : Int) =
      monthStart ((month + 9) % 12 + 1) - monthStart ((month + 9) % 12) := by
  interval_cases month <;> first | rfl | exact absurd rfl h

theorem yearStart_eq (year : Int) :
    year / 400 * cycle + (year % 400 * 365 + year % 400 / 4 - year % 400 / 100) =
      yearStart year := by
  simp only [cycle, yearStart]
  omega

theorem yearStart_succ (year : Int) :
    yearStart (year + 1) = yearStart year + if isLeapYear (year + 1) then 366 else 365 := by
  simp only [yearStart, isLeapYear_iff]
  split <;> omega

theorem toDays_eq (d : Date) : d.toDays = yearStart d.marchYear + d.dayOfYear - epochShift := by
  rw [← yearStart_eq]
  simp only [toDays, marchYear, marchMonth, dayOfYear, monthStart]
  omega

theorem month_eq_iff {month : Int} :
    (5 * x + 2) / 153 = month ↔ monthStart month ≤ x ∧ x < monthStart (month + 1) := by
  simp only [monthStart]
  omega

theorem OnCalendar.dayOfYear_mem (h : d.OnCalendar) :
    monthStart d.marchMonth ≤ d.dayOfYear ∧ d.dayOfYear < monthStart (d.marchMonth + 1) := by
  obtain ⟨h₁, h₁₂, hday, hle⟩ := h
  simp only [dayOfYear, marchMonth]
  refine ⟨by omega, ?_⟩
  by_cases hfeb : d.month = 2
  · rw [hfeb, daysInMonth_two] at hle
    have hle' : d.day ≤ 29 := hle.trans (by split <;> decide)
    simp only [monthStart, hfeb]
    omega
  · have hlength := daysInMonth_eq d.year h₁ h₁₂ hfeb
    omega

theorem OnCalendar.yearHas (h : d.OnCalendar) : YearHas d.marchYear d.dayOfYear := by
  have hmem := h.dayOfYear_mem
  obtain ⟨h₁, h₁₂, hday, hle⟩ := h
  by_cases hfeb : d.month = 2
  · have hyear : d.marchYear + 1 = d.year := by
      simp only [marchYear, hfeb]
      omega
    rw [hfeb, daysInMonth_two] at hle
    rw [YearHas, hyear]
    simp only [dayOfYear, marchMonth, monthStart, hfeb]
    split at hle
    · next hleap => exact ⟨by omega, by omega, fun _ => hleap⟩
    · exact ⟨by omega, by omega, by omega⟩
  · simp only [monthStart, marchMonth] at hmem
    exact ⟨by omega, by omega, by omega⟩

theorem ofMarch_dayOfYear (h : d.OnCalendar) : ofMarch d.marchYear d.dayOfYear = d := by
  rw [ofMarch, month_eq_iff.mpr h.dayOfYear_mem]
  obtain ⟨h₁, h₁₂, -, -⟩ := h
  have hcivil : (if d.marchMonth < 10 then d.marchMonth + 3 else d.marchMonth - 9) = d.month := by
    simp only [marchMonth]
    omega
  have hday : d.dayOfYear - monthStart d.marchMonth + 1 = d.day := by
    rw [dayOfYear]
    omega
  have hyear : (if (d.month : Int) ≤ 2 then d.marchYear + 1 else d.marchYear) = d.year := by
    simp only [marchYear]
    omega
  simp only [hcivil, hday, hyear, Int.toNat_natCast]

theorem YearHas.month_mem (h : YearHas y x) :
    0 ≤ (5 * x + 2) / 153 ∧ (5 * x + 2) / 153 ≤ 11 := by
  obtain ⟨h₀, h₃₆₅, -⟩ := h
  omega

theorem marchMonth_ofMarch (h : YearHas y x) : (ofMarch y x).marchMonth = (5 * x + 2) / 153 := by
  have hmonth := h.month_mem
  simp only [ofMarch, marchMonth]
  split <;> omega

theorem dayOfYear_ofMarch (h : YearHas y x) : (ofMarch y x).dayOfYear = x := by
  have hmem := (month_eq_iff (x := x)).mp rfl
  rw [dayOfYear, marchMonth_ofMarch h]
  simp only [ofMarch]
  omega

theorem marchYear_ofMarch (h : YearHas y x) : (ofMarch y x).marchYear = y := by
  have hmonth := h.month_mem
  simp only [ofMarch, marchYear]
  by_cases hlate : (5 * x + 2) / 153 < 10
  · simp only [if_pos hlate]
    split <;> omega
  · simp only [if_neg hlate]
    split <;> omega

theorem month_ofMarch_mem (h : YearHas y x) :
    1 ≤ (ofMarch y x).month ∧ (ofMarch y x).month ≤ 12 := by
  have hmonth := h.month_mem
  simp only [ofMarch]
  split <;> omega

theorem onCalendar_ofMarch (h : YearHas y x) : (ofMarch y x).OnCalendar := by
  have hmem := month_eq_iff.mp (marchMonth_ofMarch h).symm
  have hday := dayOfYear_ofMarch h
  have hyear := marchYear_ofMarch h
  obtain ⟨h₁, h₁₂⟩ := month_ofMarch_mem h
  obtain ⟨-, h₃₆₅, hleap⟩ := h
  generalize ofMarch y x = d at *
  rw [dayOfYear] at hday
  have hle : (d.day : Int) ≤ daysInMonth d.year d.month := by
    by_cases hfeb : d.month = 2
    · have hyear' : d.year = y + 1 := by
        simp only [marchYear, hfeb] at hyear
        omega
      have hstart : monthStart d.marchMonth = 337 := by
        rw [marchMonth, hfeb]
        rfl
      rw [hfeb, daysInMonth_two, hyear']
      by_cases hlast : x = 365
      · rw [if_pos (hleap hlast)]
        push_cast
        omega
      · split <;> push_cast <;> omega
    · have hlength := daysInMonth_eq d.year h₁ h₁₂ hfeb
      rw [← marchMonth] at hlength
      omega
  exact ⟨h₁, h₁₂, by omega, by exact_mod_cast hle⟩

theorem toDays_ofMarch (h : YearHas y x) : (ofMarch y x).toDays = yearStart y + x - epochShift := by
  rw [toDays_eq, marchYear_ofMarch h, dayOfYear_ofMarch h]

end March

section Count

variable {d d' : Date}

theorem ofDays_index (era : Int) (k : CycleDay) :
    ofDays (era * cycle + k.index - epochShift) =
      ofMarch (era * 400 + k.yearOfCycle) k.day := by
  obtain ⟨h₀, h₁⟩ := k.index_mem
  have hshifted : era * cycle + k.index - epochShift + epochShift = era * cycle + k.index := by
    omega
  have hera : (era * cycle + k.index) / cycle = era := by
    simp only [cycle] at h₁ ⊢
    omega
  have hindex : (era * cycle + k.index) % cycle = k.index := by
    simp only [cycle] at h₁ ⊢
    omega
  have hday : k.index - (365 * k.yearOfCycle + k.yearOfCycle / 4 - k.yearOfCycle / 100) =
      k.day := by
    have heq := k.index_eq
    omega
  have hyear : k.yearOfCycle + era * 400 = era * 400 + k.yearOfCycle := by omega
  simp only [ofDays, hshifted, hera, hindex, k.year_of_index, hday, hyear, ofMarch, monthStart]

theorem yearHas_cycleDay (era : Int) (k : CycleDay) :
    YearHas (era * 400 + k.yearOfCycle) k.day := by
  obtain ⟨c, q, s, d, hc, hq, hs, hd, hleap⟩ := k
  simp only [YearHas, CycleDay.yearOfCycle, isLeapYear_iff]
  exact ⟨hd.1, hd.2, by omega⟩

theorem exists_cycleDay {y x : Int} (h : YearHas y x) :
    ∃ k : CycleDay, k.yearOfCycle = y % 400 ∧ k.day = x := by
  obtain ⟨h₀, h₃₆₅, hleap⟩ := h
  rw [isLeapYear_iff] at hleap
  refine ⟨⟨y % 400 / 100, y % 100 / 4, y % 4, x, by omega, by omega, by omega, ⟨h₀, h₃₆₅⟩,
    by omega⟩, ?_, rfl⟩
  simp only [CycleDay.yearOfCycle]
  omega

/-- The years of a cycle start as many days into it as their number tells. -/
theorem yearStart_cycleDay (era : Int) (k : CycleDay) :
    yearStart (era * 400 + k.yearOfCycle) + k.day = era * cycle + k.index := by
  have hyear : 0 ≤ k.yearOfCycle ∧ k.yearOfCycle < 400 := by
    obtain ⟨c, q, s, d, hc, hq, hs, hd, hleap⟩ := k
    simp only [CycleDay.yearOfCycle]
    omega
  have hera : (era * 400 + k.yearOfCycle) / 400 = era := by omega
  have hrest : (era * 400 + k.yearOfCycle) % 400 = k.yearOfCycle := by omega
  rw [← yearStart_eq, hera, hrest, k.index_eq]
  omega

theorem exists_ofMarch (days : Int) : ∃ y x, YearHas y x ∧ ofDays days = ofMarch y x ∧
    yearStart y + x - epochShift = days := by
  have hcycle : (0 : Int) < cycle := by decide
  obtain ⟨k, hk⟩ := CycleDay.exists_index_eq (Int.emod_nonneg (days + epochShift) hcycle.ne')
    (Int.emod_lt_of_pos (days + epochShift) hcycle)
  have hdays : (days + epochShift) / cycle * cycle + k.index - epochShift = days := by
    rw [hk]
    have hsplit := Int.ediv_mul_add_emod (days + epochShift) cycle
    omega
  refine ⟨(days + epochShift) / cycle * 400 + k.yearOfCycle, k.day, yearHas_cycleDay _ k, ?_, ?_⟩
  · rw [← ofDays_index, hdays]
  · rw [yearStart_cycleDay, hdays]

/-- Every number of days is the count of a date. -/
theorem toDays_ofDays (days : Int) : (ofDays days).toDays = days := by
  obtain ⟨y, x, hhas, hofDays, hdays⟩ := exists_ofMarch days
  rw [hofDays, toDays_ofMarch hhas, hdays]

theorem onCalendar_ofDays (days : Int) : (ofDays days).OnCalendar := by
  obtain ⟨y, x, hhas, hofDays, -⟩ := exists_ofMarch days
  rw [hofDays]
  exact onCalendar_ofMarch hhas

/-- A date is found from its count. -/
theorem ofDays_toDays (h : d.OnCalendar) : ofDays d.toDays = d := by
  obtain ⟨k, hyear, hday⟩ := exists_cycleDay h.yearHas
  have hdays : d.toDays = d.marchYear / 400 * cycle + k.index - epochShift := by
    rw [toDays_eq, ← yearStart_eq, k.index_eq, hyear, hday]
    omega
  have hmarch : d.marchYear / 400 * 400 + k.yearOfCycle = d.marchYear := by omega
  rw [hdays, ofDays_index, hmarch, hday, ofMarch_dayOfYear h]

theorem eq_of_toDays_eq (h : d.OnCalendar) (h' : d'.OnCalendar) (heq : d.toDays = d'.toDays) :
    d = d' := by
  rw [← ofDays_toDays h, heq, ofDays_toDays h']

theorem toDays_next_of_lt (h : d.day < daysInMonth d.year d.month) :
    d.next.toDays = d.toDays + 1 := by
  rw [next, if_pos h]
  simp only [toDays]
  omega

/-- The first day of a month follows the last of the month before. -/
theorem toDays_next_of_month (h : d.OnCalendar) (hlast : d.day = daysInMonth d.year d.month)
    (hmonth : d.month < 12) : d.next.toDays = d.toDays + 1 := by
  rw [next, if_neg hlast.not_lt, if_pos hmonth, toDays_eq, toDays_eq]
  obtain ⟨h₁, h₁₂, -, -⟩ := h
  by_cases hfeb : d.month = 2
  · have hyear := yearStart_succ (d.year - 1)
    rw [Int.sub_add_cancel] at hyear
    rw [hfeb, daysInMonth_two] at hlast
    have hthis : d.marchYear = d.year - 1 := if_pos (by omega)
    have hfollowing : (⟨d.year, d.month + 1, 1⟩ : Date).marchYear = d.year := by
      rw [marchYear, hfeb]
      rfl
    rw [hthis, hfollowing, hyear]
    simp only [dayOfYear, marchMonth, monthStart, hfeb, hlast]
    split_ifs <;> omega
  · have hlength := daysInMonth_eq d.year h₁ h₁₂ hfeb
    have hmarch : (⟨d.year, d.month + 1, 1⟩ : Date).marchYear = d.marchYear := by
      simp only [marchYear]
      omega
    have hnext : (((d.month + 1 : Nat) : Int) + 9) % 12 = (d.month + 9) % 12 + 1 := by omega
    rw [hmarch]
    simp only [dayOfYear, marchMonth, hnext]
    omega

theorem toDays_next_of_year (h : d.OnCalendar) (hlast : d.day = daysInMonth d.year d.month)
    (hmonth : ¬d.month < 12) : d.next.toDays = d.toDays + 1 := by
  have hdecember : d.month = 12 := by
    obtain ⟨-, h₁₂, -, -⟩ := h
    omega
  rw [next, if_neg hlast.not_lt, if_neg hmonth]
  rw [hdecember] at hlast
  have hday : d.day = 31 := hlast
  have hthis : d.marchYear = d.year := if_neg (by omega)
  have hfollowing : (⟨d.year + 1, 1, 1⟩ : Date).marchYear = d.year := Int.add_sub_cancel ..
  rw [toDays_eq, toDays_eq, hthis, hfollowing]
  simp only [dayOfYear, marchMonth, monthStart, hdecember, hday]
  omega

theorem toDays_next (h : d.OnCalendar) : d.next.toDays = d.toDays + 1 := by
  by_cases hday : d.day < daysInMonth d.year d.month
  · exact toDays_next_of_lt hday
  have hlast : d.day = daysInMonth d.year d.month := by
    obtain ⟨-, -, -, hle⟩ := h
    omega
  by_cases hmonth : d.month < 12
  · exact toDays_next_of_month h hlast hmonth
  · exact toDays_next_of_year h hlast hmonth

theorem one_le_daysInMonth (year : Int) (month : Nat) : 1 ≤ daysInMonth year month := by
  simp only [daysInMonth]
  split_ifs <;> decide

theorem OnCalendar.next (h : d.OnCalendar) : d.next.OnCalendar := by
  obtain ⟨h₁, h₁₂, hday, hle⟩ := h
  unfold Date.next
  split_ifs with hlt hmonth
  · exact ⟨h₁, h₁₂, Nat.le_add_left 1 _, hlt⟩
  · exact ⟨Nat.le_add_left 1 _, hmonth, le_rfl, one_le_daysInMonth _ _⟩
  · exact ⟨le_rfl, Nat.le_add_left 1 11, le_rfl, one_le_daysInMonth _ _⟩

theorem OnCalendar.iterate_next (h : d.OnCalendar) (k : Nat) : (Date.next^[k] d).OnCalendar := by
  induction k generalizing d with
  | zero => exact h
  | succ k ih => exact ih h.next

theorem toDays_iterate_next (h : d.OnCalendar) (k : Nat) :
    (Date.next^[k] d).toDays = d.toDays + k := by
  induction k generalizing d with
  | zero => simp
  | succ k ih =>
    rw [Function.iterate_succ_apply, ih h.next, toDays_next h]
    push_cast
    omega

theorem onCalendar_epoch : epoch.OnCalendar := by
  unfold OnCalendar
  decide

/-- The day on which a date of the calendar falls is its count. -/
theorem fallsOn_iff (h : d.OnCalendar) {days : Int} : FallsOn days d ↔ d.toDays = days := by
  have hepoch : epoch.toDays = 0 := by decide
  have hahead (a : Nat) := toDays_iterate_next onCalendar_epoch a
  have hback (b : Nat) := toDays_iterate_next h b
  constructor
  · rintro ⟨a, b, hdays, heq⟩
    have hcount := hahead a
    rw [heq, hback b] at hcount
    omega
  · intro hdays
    refine ⟨days.toNat, (-days).toNat, by omega, eq_of_toDays_eq
      (onCalendar_epoch.iterate_next _) (h.iterate_next _) ?_⟩
    rw [hahead, hback]
    omega

end Count

end RemoteSql.Date
