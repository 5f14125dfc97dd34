import Mathlib
import RemoteSql.Calendar.Pattern
import RemoteSql.Proofs.Calendar.Timestamp
import RemoteSql.Proofs.Decimal.Whole

/-!
# Dates and timestamps that were written

The text of a date or of a timestamp is read back piece by piece: each item of a pattern takes one
of them, whatever text follows. The pattern of a timestamp goes on where that of a date ends, so a
text is never both.
-/

namespace RemoteSql

open Calendar

namespace Date

variable {width n : Nat}

theorem toList_padded (width n : Nat) : (padded width n).toList =
    List.replicate (width - (Nat.toDigits 10 n).length) '0' ++ Nat.toDigits 10 n := by
  have hdigits : (toString n).toList = Nat.toDigits 10 n := Nat.toList_repr
  have hlength : (toString n).length = (Nat.toDigits 10 n).length := by
    rw [← String.length_toList, hdigits]
  simp only [padded, String.toList_append, String.toList_ofList, hdigits, hlength]

theorem isDigit_of_mem_padded {c : Char} (hc : c ∈ (padded width n).toList) :
    c.isDigit = true := by
  rw [toList_padded, List.mem_append] at hc
  rcases hc with hc | hc
  · rw [List.eq_of_mem_replicate hc]
    rfl
  · exact Decimal.isDigit_of_mem_toDigits hc

theorem padded_ne_nil (width n : Nat) : (padded width n).toList ≠ [] := by
  rw [toList_padded]
  exact List.append_ne_nil_of_right_ne_nil _ Nat.toDigits_ne_nil

theorem length_padded (hwidth : 0 < width) (hn : n < 10 ^ width) :
    (padded width n).toList.length = width := by
  have hle : (Nat.toDigits 10 n).length ≤ width := Nat.toDigits_length 10 n width hwidth hn
  rw [toList_padded, List.length_append, List.length_replicate]
  omega

theorem ofDigits_padded (width n : Nat) : Decimal.ofDigits (padded width n).toList = n := by
  have hzeros : ∀ k, Decimal.ofDigits (List.replicate k '0') = 0 := by
    intro k
    induction k with
    | zero => rfl
    | succ k ih => exact ih
  have hdigits := Decimal.ofDigits_toDigits n
  rw [Decimal.ofDigits] at hdigits
  rw [toList_padded, Decimal.ofDigits, List.foldl_append, ← Decimal.ofDigits, hzeros, hdigits]

/-- A text that ends with a numeral ends with a digit. -/
theorem isDigit_of_getLast?_padded {cs : List Char} {c : Char}
    (hc : c ∈ (cs ++ (padded width n).toList).getLast?) : c.isDigit = true := by
  rw [List.getLast?_append_of_ne_nil _ (padded_ne_nil width n)] at hc
  exact isDigit_of_mem_padded (List.mem_of_mem_getLast? hc)

theorem isDigit_of_head?_padded {cs : List Char} {c : Char}
    (hc : c ∈ ((padded width n).toList ++ cs).head?) : c.isDigit = true := by
  rw [List.head?_append_of_ne_nil _ (padded_ne_nil width n)] at hc
  exact isDigit_of_mem_padded (List.mem_of_mem_head? hc)

end Date

namespace Calendar

variable {p q : Parts} {items more : List Item} {cs : List Char} {n : Nat}

theorem number?_append (hne : cs ≠ []) (hcs : ∀ c ∈ cs, c.isDigit = true) (rest : List Char) :
    number? cs.length (cs ++ rest) = some (Decimal.ofDigits cs, rest) := by
  have hdigits : cs.takeWhile Char.isDigit = cs := List.takeWhile_eq_self_iff.mpr hcs
  simp [number?, hdigits, hne]

theorem number?_padded {width : Nat} (hwidth : 0 < width) (hn : n < 10 ^ width)
    (rest : List Char) :
    number? width ((Date.padded width n).toList ++ rest) = some (n, rest) := by
  have hread := number?_append (Date.padded_ne_nil width n)
    (fun _ => Date.isDigit_of_mem_padded) rest
  rwa [Date.length_padded hwidth hn, Date.ofDigits_padded] at hread

/-- There is no white space before a numeral. -/
theorem dropWhile_padded (width n : Nat) (rest : List Char) :
    ((Date.padded width n).toList ++ rest).dropWhile Text.isBlank =
      (Date.padded width n).toList ++ rest :=
  Text.dropWhile_of_head fun _ hc => Decimal.isBlank_of_isDigit (Date.isDigit_of_head?_padded hc)

theorem readPattern_literal (c : Char) (items : List Item) (p : Parts) (rest : List Char) :
    readPattern (.literal c :: items) p (c :: rest) = readPattern items p rest := by
  simp [readPattern, Item.read]

theorem readPattern_number {part : Part} (hpart : part ≠ .year) (hn : n < 100) (items : List Item)
    (p : Parts) (rest : List Char) :
    readPattern (.number part :: items) p ((Date.padded 2 n).toList ++ rest) =
      readPattern items (setPart p n part) rest := by
  have hread : (Item.number part).read p ((Date.padded 2 n).toList ++ rest) =
      (number? 2 (((Date.padded 2 n).toList ++ rest).dropWhile Text.isBlank)).map
        fun read => (setPart p read.1 part, read.2) := by
    cases part with
    | year => exact absurd rfl hpart
    | month | day | hour | minute | second => rfl
  rw [readPattern, hread, dropWhile_padded, number?_padded (by decide) hn]
  rfl

/-- A year of four digits is not taken for one with a sign. -/
theorem year?_padded (hn : n < 10000) (rest : List Char) :
    year? ((Date.padded 4 n).toList ++ rest) = some ((n : Int), rest) := by
  have hread : number? 4 ((Date.padded 4 n).toList ++ rest) = some (n, rest) :=
    number?_padded (by decide) hn rest
  have hhead : ∀ c ∈ ((Date.padded 4 n).toList ++ rest).head?, c.isDigit = true :=
    fun c hc => Date.isDigit_of_head?_padded hc
  generalize (Date.padded 4 n).toList ++ rest = cs at hread hhead
  unfold year?
  split
  · exact absurd (hhead _ rfl) (by decide)
  · exact absurd (hhead _ rfl) (by decide)
  · rw [hread]
    rfl

theorem readPattern_year (hn : n < 10000) (items : List Item) (p : Parts) (rest : List Char) :
    readPattern (.number .year :: items) p ((Date.padded 4 n).toList ++ rest) =
      readPattern items { p with year := n } rest := by
  rw [readPattern, Item.read, dropWhile_padded, year?_padded hn]
  rfl

theorem nanoseconds_padded (hn : n < 1000) :
    nanoseconds (Date.padded 3 n).toList = n * 1000000 := by
  have hlength : (Date.padded 3 n).toList.length = 3 := Date.length_padded (by decide) hn
  have htake : (Date.padded 3 n).toList.take 9 = (Date.padded 3 n).toList :=
    List.take_of_length_le (by omega)
  simp only [nanoseconds, htake, hlength, Date.ofDigits_padded, Nat.reduceSub]

/-- A fraction goes on to the end of the text. -/
theorem readPattern_fraction (hn : n < 1000) (p : Parts) :
    readPattern [.fraction] p ('.' :: (Date.padded 3 n).toList) =
      some { p with nanosecond := n * 1000000 } := by
  have hdigits : (Date.padded 3 n).toList.takeWhile Char.isDigit = (Date.padded 3 n).toList :=
    List.takeWhile_eq_self_iff.mpr fun _ => Date.isDigit_of_mem_padded
  have hread : Item.fraction.read p ('.' :: (Date.padded 3 n).toList) =
      some ({ p with nanosecond := n * 1000000 }, []) := by
    simp only [Item.read, hdigits, List.isEmpty_eq_false_iff.mpr (Date.padded_ne_nil 3 n),
      nanoseconds_padded hn, List.drop_length, Bool.false_eq_true, if_false]
  rw [readPattern, hread]
  rfl

end Calendar

namespace Date

variable {d : Date} {items : List Item} {p : Parts} {rest : List Char}

theorem toList_render (h₀ : 0 ≤ d.year) (h₉ : d.year ≤ 9999) :
    d.render.toList = (padded 4 d.year.toNat).toList ++ ('-' :: ((padded 2 d.month).toList ++
      ('-' :: (padded 2 d.day).toList))) := by
  have hyear : yearText d.year = padded 4 d.year.toNat := if_pos ⟨h₀, h₉⟩
  simp [render, hyear]

theorem OnCalendar.day_lt (h : d.OnCalendar) : d.day < 100 := by
  obtain ⟨-, -, -, hle⟩ := h
  refine hle.trans_lt ?_
  simp only [daysInMonth]
  split_ifs <;> decide

/-- The pattern of a date reads what was written of it, and other items may follow. -/
theorem readPattern_render (h : d.OnCalendar) (h₀ : 0 ≤ d.year) (h₉ : d.year ≤ 9999)
    (items : List Item) (rest : List Char) :
    readPattern (datePattern ++ items) {} (d.render.toList ++ rest) =
      readPattern items ({ year := d.year, month := d.month, day := d.day } : Parts) rest := by
  have hyear : d.year.toNat < 10000 := by omega
  have hmonth : d.month < 100 := by
    obtain ⟨-, h₁₂, -, -⟩ := h
    omega
  rw [toList_render h₀ h₉]
  simp only [datePattern, List.cons_append, List.nil_append, List.append_assoc]
  rw [readPattern_year hyear, readPattern_literal, readPattern_number (by decide) hmonth,
    readPattern_literal, readPattern_number (by decide) h.day_lt]
  simp only [setPart, Int.toNat_of_nonneg h₀]

theorem parse?_render (h : d.OnCalendar) (h₀ : 0 ≤ d.year) (h₉ : d.year ≤ 9999) :
    parse? d.render = some d := by
  have hread := readPattern_render h h₀ h₉ [] []
  rw [List.append_nil, List.append_nil] at hread
  rw [parse?, hread]
  exact if_pos (h.valid h₀ h₉)

end Date

namespace TimeOfDay

variable {t : TimeOfDay}

/-- The hour, the minute, the second and the millisecond, in two digits and the last in three. -/
def millisText (t : TimeOfDay) : String :=
  Date.padded 2 t.hour ++ ":" ++ Date.padded 2 t.minute ++ ":" ++ Date.padded 2 t.second ++ "." ++
    Date.padded 3 (t.nanosecond / 1000000)

theorem toList_millisText (t : TimeOfDay) :
    t.millisText.toList = (Date.padded 2 t.hour).toList ++
      (':' :: ((Date.padded 2 t.minute).toList ++
        (':' :: ((Date.padded 2 t.second).toList ++
          ('.' :: (Date.padded 3 (t.nanosecond / 1000000)).toList))))) := by
  simp [millisText]

theorem readPattern_millisText (h : t.OnClock) (p : Parts) :
    readPattern timePattern p t.millisText.toList = some { p with
      hour := t.hour
      minute := t.minute
      second := t.second
      nanosecond := t.nanosecond } := by
  obtain ⟨hhour, hminute, hsecond, hnano, hwhole⟩ := h
  have hmillis : t.nanosecond / 1000000 < 1000 := by omega
  have hnanosecond : t.nanosecond / 1000000 * 1000000 = t.nanosecond := by omega
  rw [toList_millisText, timePattern, readPattern_number (by decide) (by omega),
    readPattern_literal, readPattern_number (by decide) (by omega), readPattern_literal,
    readPattern_number (by decide) (by omega), readPattern_fraction hmillis, hnanosecond]
  simp only [setPart]

end TimeOfDay

namespace Timestamp

variable {t : Timestamp} {m : Int} {s : String}

/-- A timestamp with a space before its time. -/
def spacedText (t : Timestamp) : String := t.date.render ++ " " ++ t.time.millisText

/-- A timestamp with the letter T before its time. -/
def letteredText (t : Timestamp) : String := t.date.render ++ "T" ++ t.time.millisText

theorem readPattern_space (t : TimeOfDay) (p : Parts) :
    readPattern (.space :: timePattern) p (' ' :: t.millisText.toList) =
      readPattern timePattern p t.millisText.toList := by
  have hread : Item.space.read p (' ' :: t.millisText.toList) = some (p, t.millisText.toList) := by
    rw [Item.read, List.dropWhile_cons_of_pos (by decide), TimeOfDay.toList_millisText,
      dropWhile_padded]
  rw [readPattern, hread, Option.bind_some]

/-- The letter T is no white space, and the hour does not begin with it. -/
theorem readPattern_space_of_letter (cs : List Char) (p : Parts) :
    readPattern (.space :: timePattern) p ('T' :: cs) = none := rfl

/-- What the two patterns of a timestamp read of a date and what comes after it. -/
theorem parse?_eq_of_toList (h : t.date.OnCalendar) (h₀ : 0 ≤ t.date.year)
    (h₉ : t.date.year ≤ 9999) {rest : List Char} (hs : s.toList = t.date.render.toList ++ rest) :
    parse? s =
      ((readPattern (.space :: timePattern)
        { year := t.date.year, month := t.date.month, day := t.date.day } rest).bind
          Parts.timestamp?).or
      ((readPattern (.literal 'T' :: timePattern)
        { year := t.date.year, month := t.date.month, day := t.date.day } rest).bind
          Parts.timestamp?) := by
  rw [parse?, hs, Date.readPattern_render h h₀ h₉, Date.readPattern_render h h₀ h₉]

theorem At.timestamp?_eq_some (h : At m t) (h₀ : 0 ≤ t.date.year) (h₉ : t.date.year ≤ 9999) :
    Parts.timestamp? ⟨t.date.year, t.date.month, t.date.day, t.time.hour, t.time.minute,
      t.time.second, t.time.nanosecond⟩ = some t :=
  if_pos ⟨h.onCalendar.valid h₀ h₉, h.onClock.valid⟩

theorem At.parse?_spacedText (h : At m t) (h₀ : 0 ≤ t.date.year) (h₉ : t.date.year ≤ 9999) :
    parse? t.spacedText = some t := by
  have hs : t.spacedText.toList = t.date.render.toList ++ (' ' :: t.time.millisText.toList) := by
    simp [spacedText]
  rw [parse?_eq_of_toList h.onCalendar h₀ h₉ hs, readPattern_space,
    TimeOfDay.readPattern_millisText h.onClock, Option.bind_some, h.timestamp?_eq_some h₀ h₉]
  rfl

theorem At.parse?_letteredText (h : At m t) (h₀ : 0 ≤ t.date.year) (h₉ : t.date.year ≤ 9999) :
    parse? t.letteredText = some t := by
  have hs : t.letteredText.toList = t.date.render.toList ++ ('T' :: t.time.millisText.toList) := by
    simp [letteredText]
  rw [parse?_eq_of_toList h.onCalendar h₀ h₉ hs, readPattern_space_of_letter, readPattern_literal,
    TimeOfDay.readPattern_millisText h.onClock, Option.bind_some, h.timestamp?_eq_some h₀ h₉]
  rfl

end Timestamp

namespace Calendar

/-- Items that have used up a text leave nothing to the items after them. -/
theorem readPattern_append {p q : Parts} {items : List Item} {cs : List Char}
    (h : readPattern items p cs = some q) (more : List Item) :
    readPattern (items ++ more) p cs = readPattern more q [] := by
  induction items generalizing p cs with
  | nil =>
    cases cs with
    | nil =>
      cases h
      rfl
    | cons c cs => cases h
  | cons item items ih =>
    rw [readPattern] at h
    obtain ⟨⟨p', cs'⟩, hitem, hitems⟩ := Option.bind_eq_some_iff.mp h
    rw [List.cons_append, readPattern, hitem]
    exact ih hitems

end Calendar

/-- A text of a date is no text of a timestamp, which would go on with a time. -/
theorem Timestamp.parse?_eq_none_of_date {s : String} {d : Date} (h : Date.parse? s = some d) :
    Timestamp.parse? s = none := by
  obtain ⟨p, hp, -⟩ := Option.bind_eq_some_iff.mp h
  rw [Timestamp.parse?, readPattern_append hp, readPattern_append hp]
  rfl

section Dated

/-- A text that begins with a year and a hyphen and ends with a numeral. -/
structure Dated (s : String) : Prop where
  front : ∃ n rest, s.toList = (Date.padded 4 n).toList ++ ('-' :: rest)
  back : ∃ cs width n, s.toList = cs ++ (Date.padded width n).toList

variable {s : String}

theorem Dated.head_isDigit (h : Dated s) : ∀ c ∈ s.toList.head?, c.isDigit = true := by
  obtain ⟨n, rest, hs⟩ := h.front
  rw [hs]
  exact fun c hc => Date.isDigit_of_head?_padded hc

theorem Dated.trim_eq (h : Dated s) : Text.trim s = s := by
  obtain ⟨cs, width, n, hs⟩ := h.back
  refine Text.trim_of_ends (fun c hc => Decimal.isBlank_of_isDigit (h.head_isDigit c hc)) ?_
  rw [hs]
  exact fun c hc => Decimal.isBlank_of_isDigit (Date.isDigit_of_getLast?_padded hc)

/-- A year and a hyphen are not the beginning of a number. -/
theorem Dated.readSigned?_eq_none (h : Dated s) (bits : Nat) :
    Decimal.readSigned? bits s = none := by
  obtain ⟨n, rest, hs⟩ := h.front
  exact Decimal.readSigned?_eq_none hs (Date.padded_ne_nil 4 n) rfl

theorem dated_render {d : Date} (h₀ : 0 ≤ d.year) (h₉ : d.year ≤ 9999) : Dated d.render where
  front := ⟨_, _, Date.toList_render h₀ h₉⟩
  back := ⟨_, 2, d.day, by rw [Date.render, String.toList_append]⟩

theorem Dated.append_millisText (h : Dated s) (separator : String) (t : TimeOfDay) :
    Dated (s ++ separator ++ t.millisText) where
  front := by
    obtain ⟨n, rest, hs⟩ := h.front
    refine ⟨n, rest ++ (separator.toList ++ t.millisText.toList), ?_⟩
    simp only [String.toList_append, hs, List.append_assoc, List.cons_append]
  back := ⟨_, 3, t.nanosecond / 1000000, by
    rw [TimeOfDay.millisText, ← String.append_assoc, String.toList_append]⟩

end Dated

end RemoteSql
