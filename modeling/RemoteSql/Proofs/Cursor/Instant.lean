import Mathlib
import RemoteSql.Proofs.Calendar.Pattern
import RemoteSql.Proofs.Cursor.Signed

/-!
# Dates and timestamps in cells

A cell gives an instant by its milliseconds, as a JSON number or as text, or by its date and time.
The getters of dates and of timestamps read all of these as the same instant, and they agree
wherever both of them return a value.
-/

namespace RemoteSql.Cursor

variable {c c' : Cursor} {col col' : Column} {raw : String} {m : Int} {t : Timestamp} {v : Json}

/-- The values that give an instant, of which one is the timestamp. -/
inductive InstantValue (m : Int) (t : Timestamp) : Json → Prop
  | number {literal : String} (h : Decimal.Writes literal m) : InstantValue m t (.number literal)
  | numberText {text : String} (h : Decimal.Writes text m) : InstantValue m t (.string text)
  | spaced : InstantValue m t (.string t.spacedText)
  | lettered : InstantValue m t (.string t.letteredText)

/-- The values that give the date of an instant. -/
inductive DateValue (m : Int) (d : Date) : Json → Prop
  | number {literal : String} (h : Decimal.Writes literal m) : DateValue m d (.number literal)
  | numberText {text : String} (h : Decimal.Writes text m) : DateValue m d (.string text)
  | date : DateValue m d (.string d.render)

section Reading

variable {millis : Int}

theorem ne_nullMarker_of_millis (hread : Decimal.readSigned? 64 (Text.trim raw) = some millis) :
    raw ≠ nullMarker := by
  rintro rfl
  exact not_writes_nullMarker millis (Decimal.readSigned?_trim_eq_some_iff.mp hread).1

theorem getDate_of_millis (h : c.cellText col = .ok raw)
    (hread : Decimal.readSigned? 64 (Text.trim raw) = some millis) :
    (c.getDate col).1 = (ofMillis col millis).map fun t => some t.date := by
  rw [getDate, readWith_of_text h, if_neg (ne_nullMarker_of_millis hread)]
  simp only [hread]

theorem getTimestamp_of_millis (h : c.cellText col = .ok raw)
    (hread : Decimal.readSigned? 64 (Text.trim raw) = some millis) :
    (c.getTimestamp col).1 = (ofMillis col millis).map some := by
  rw [getTimestamp, readWith_of_text h, if_neg (ne_nullMarker_of_millis hread)]
  simp only [hread]

theorem getDate_of_text (h : c.cellText col = .ok raw) (hnull : raw ≠ nullMarker)
    (hread : Decimal.readSigned? 64 (Text.trim raw) = none) :
    (c.getDate col).1 =
      (orNotA .date col (Text.trim raw) (Date.parse? (Text.trim raw))).map some := by
  rw [getDate, readWith_of_text h, if_neg hnull]
  simp only [hread]

theorem getTimestamp_of_text (h : c.cellText col = .ok raw) (hnull : raw ≠ nullMarker)
    (hread : Decimal.readSigned? 64 (Text.trim raw) = none) :
    (c.getTimestamp col).1 =
      (orNotA .timestamp col (Text.trim raw) (Timestamp.parse? (Text.trim raw))).map some := by
  rw [getTimestamp, readWith_of_text h, if_neg hnull]
  simp only [hread]

end Reading

section Instant

variable (hat : t.At m) (h₀ : 0 ≤ t.date.year) (h₉ : t.date.year ≤ 9999)

include hat h₀ h₉

theorem ofMillis_eq_ok (col : Column) : ofMillis col m = .ok t := by
  rw [ofMillis, hat.ofEpochMillis?_eq_some h₀ h₉, orNotA]

theorem readSigned?_of_writes (h : Decimal.Writes raw m) :
    Decimal.readSigned? 64 (Text.trim raw) = some m :=
  Decimal.readSigned?_trim_eq_some_iff.mpr ⟨h, hat.fits h₀ h₉⟩

theorem getTimestamp_of_writes (h : c.cellText col = .ok raw) (hwrites : Decimal.Writes raw m) :
    (c.getTimestamp col).1 = .ok (some t) := by
  rw [getTimestamp_of_millis h (readSigned?_of_writes hat h₀ h₉ hwrites),
    ofMillis_eq_ok hat h₀ h₉]
  rfl

theorem getDate_of_writes (h : c.cellText col = .ok raw) (hwrites : Decimal.Writes raw m) :
    (c.getDate col).1 = .ok (some t.date) := by
  rw [getDate_of_millis h (readSigned?_of_writes hat h₀ h₉ hwrites), ofMillis_eq_ok hat h₀ h₉]
  rfl

end Instant

section Dated

theorem ne_nullMarker_of_dated (hraw : Dated raw) : raw ≠ nullMarker := by
  rintro rfl
  exact absurd (hraw.head_isDigit 'N' rfl) (by decide)

theorem readSigned?_of_dated (hraw : Dated raw) :
    Decimal.readSigned? 64 (Text.trim raw) = none := by
  rw [hraw.trim_eq, hraw.readSigned?_eq_none]

theorem getTimestamp_of_dated (h : c.cellText col = .ok raw) (hraw : Dated raw)
    (hparse : Timestamp.parse? raw = some t) : (c.getTimestamp col).1 = .ok (some t) := by
  rw [getTimestamp_of_text h (ne_nullMarker_of_dated hraw) (readSigned?_of_dated hraw),
    hraw.trim_eq, hparse]
  rfl

theorem getDate_of_dated (h : c.cellText col = .ok raw) (hraw : Dated raw) {d : Date}
    (hparse : Date.parse? raw = some d) : (c.getDate col).1 = .ok (some d) := by
  rw [getDate_of_text h (ne_nullMarker_of_dated hraw) (readSigned?_of_dated hraw), hraw.trim_eq,
    hparse]
  rfl

end Dated

theorem getTimestamp_of_instant (hat : t.At m) (h₀ : 0 ≤ t.date.year) (h₉ : t.date.year ≤ 9999)
    (hholds : c.Holds col v) (hv : InstantValue m t v) :
    (c.getTimestamp col).1 = .ok (some t) := by
  have hdate := dated_render h₀ h₉
  cases hv with
  | number h => exact getTimestamp_of_writes hat h₀ h₉ hholds.cellText_number h
  | numberText h => exact getTimestamp_of_writes hat h₀ h₉ hholds.cellText_string h
  | spaced =>
    exact getTimestamp_of_dated hholds.cellText_string (hdate.append_millisText " " t.time)
      (hat.parse?_spacedText h₀ h₉)
  | lettered =>
    exact getTimestamp_of_dated hholds.cellText_string (hdate.append_millisText "T" t.time)
      (hat.parse?_letteredText h₀ h₉)

theorem getDate_of_instant (hat : t.At m) (h₀ : 0 ≤ t.date.year) (h₉ : t.date.year ≤ 9999)
    (hholds : c.Holds col v) (hv : DateValue m t.date v) :
    (c.getDate col).1 = .ok (some t.date) := by
  cases hv with
  | number h => exact getDate_of_writes hat h₀ h₉ hholds.cellText_number h
  | numberText h => exact getDate_of_writes hat h₀ h₉ hholds.cellText_string h
  | date =>
    exact getDate_of_dated hholds.cellText_string (dated_render h₀ h₉)
      (Date.parse?_render hat.onCalendar h₀ h₉)

/-- Where both getters return a value, they have read it from milliseconds, or it is null. -/
theorem getDate_eq_of_getTimestamp {d? : Option Date} {t? : Option Timestamp}
    (h : c.cellText col = .ok raw) (h' : c'.cellText col' = .ok raw)
    (hdate : (c.getDate col).1 = .ok d?) (htimestamp : (c'.getTimestamp col').1 = .ok t?) :
    d? = t?.map fun t => t.date := by
  by_cases hnull : raw = nullMarker
  · rw [getDate, readWith_of_text h, if_pos hnull] at hdate
    rw [getTimestamp, readWith_of_text h', if_pos hnull] at htimestamp
    cases hdate
    cases htimestamp
    rfl
  cases hread : Decimal.readSigned? 64 (Text.trim raw) with
  | some millis =>
    rw [getDate_of_millis h hread, ofMillis] at hdate
    rw [getTimestamp_of_millis h' hread, ofMillis] at htimestamp
    cases ht : Timestamp.ofEpochMillis? millis with
    | some t =>
      rw [ht] at hdate htimestamp
      cases hdate
      cases htimestamp
      rfl
    | none =>
      rw [ht] at hdate
      cases hdate
  | none =>
    rw [getDate_of_text h hnull hread] at hdate
    rw [getTimestamp_of_text h' hnull hread] at htimestamp
    cases hd : Date.parse? (Text.trim raw) with
    | some d =>
      rw [Timestamp.parse?_eq_none_of_date hd] at htimestamp
      cases htimestamp
    | none =>
      rw [hd] at hdate
      cases hdate

/-- Every instant has one timestamp. If its year has four digits, all the ways to write it in a cell
are read as that timestamp, and all the ways to write its date as its date. Whatever else a cell
holds, the date that is read of it is that of the timestamp, if there are both. -/
theorem instant_encodings_agree :
    (∀ m : Int, ∃ t : Timestamp, t.At m ∧ (∀ t' : Timestamp, t'.At m → t' = t) ∧
      (0 ≤ t.date.year → t.date.year ≤ 9999 →
        ∀ (c : Cursor) (col : Column) (v : Json), c.Holds col v →
          (InstantValue m t v → (c.getTimestamp col).1 = .ok (some t)) ∧
          (DateValue m t.date v → (c.getDate col).1 = .ok (some t.date)))) ∧
    ∀ (c c' : Cursor) (col col' : Column) (raw : String) (d? : Option Date)
      (t? : Option Timestamp), c.cellText col = .ok raw → c'.cellText col' = .ok raw →
        (c.getDate col).1 = .ok d? → (c'.getTimestamp col').1 = .ok t? →
        d? = t?.map fun t => t.date := by
  refine ⟨fun m => ?_, fun c c' col col' raw d? t? => getDate_eq_of_getTimestamp⟩
  have hat := Timestamp.at_ofMillis m
  refine ⟨Timestamp.ofMillis m, hat, fun t' h' => h'.eq_ofMillis, fun h₀ h₉ c col v hholds => ?_⟩
  exact ⟨getTimestamp_of_instant hat h₀ h₉ hholds, getDate_of_instant hat h₀ h₉ hholds⟩

/-- The last millisecond before 1970. -/
def lastBefore : Timestamp := ⟨⟨1969, 12, 31⟩, ⟨23, 59, 59, 999000000⟩⟩

theorem at_lastBefore : lastBefore.At (-1) where
  onCalendar := by
    unfold Date.OnCalendar
    decide
  onClock := ⟨by decide, by decide, by decide, by decide, by decide⟩
  count := ⟨-1, ⟨0, 1, by decide, by decide⟩, by decide⟩

/-- A row with that millisecond as a number, as its text and with both separators, and its date. -/
def lastBeforeRow : String :=
  "\x7b\"status\":\"OK\",\"query_rows\":[[\x7b\"a\":-1\x7d,\x7b\"b\":\"-1\"\x7d," ++
    "\x7b\"c\":\"1969-12-31 23:59:59.999\"\x7d,\x7b\"d\":\"1969-12-31T23:59:59.999\"\x7d," ++
    "\x7b\"e\":\"1969-12-31\"\x7d]]\x7d"

theorem instant_encodings_agree_before_epoch :
    ∃ c : Cursor, openPayload (Utf8.encode lastBeforeRow) 1 = .ok c ∧
      (∀ i ∈ [1, 2, 3, 4], (c.next.2.getTimestamp (.index i)).1 = .ok (some lastBefore)) ∧
      ∀ i ∈ [1, 2, 5], (c.next.2.getDate (.index i)).1 = .ok (some lastBefore.date) := by
  have htexts : (openPayload (Utf8.encode lastBeforeRow) 1).toOption.map
      (fun c => [1, 2, 3, 4, 5].map fun i => (c.next.2.cellText (.index i)).toOption) =
        some [some "-1", some "-1", some lastBefore.spacedText, some lastBefore.letteredText,
          some lastBefore.date.render] := by decide +kernel
  obtain ⟨c, hc, hcells⟩ := Option.map_eq_some_iff.mp htexts
  simp only [List.map_cons, List.map_nil, List.cons.injEq, and_true] at hcells
  obtain ⟨h₁, h₂, h₃, h₄, h₅⟩ := hcells
  have hnumber : c.next.2.Holds (.index 1) (.number "-1") :=
    ⟨0, "a", "-1", by decide +kernel, eq_ok_of_toOption h₁⟩
  have htext {i : Nat} {s : String} (h : (c.next.2.cellText (.index i)).toOption = some s) :
      c.next.2.Holds (.index i) (.string s) := ⟨0, "b", s, rfl, eq_ok_of_toOption h⟩
  have hwrites : Decimal.Writes "-1" (-1) :=
    Decimal.signed?_trim_eq_some_iff.mp (by decide +kernel)
  obtain ⟨t, hat, hunique, hread⟩ := instant_encodings_agree.1 (-1)
  cases hunique lastBefore at_lastBefore
  have hread := fun i v => hread (by decide) (by decide) c.next.2 (.index i) v
  refine ⟨c, eq_ok_of_toOption hc, ?_, ?_⟩
  · simp only [List.forall_mem_cons]
    exact ⟨(hread _ _ hnumber).1 (.number hwrites), (hread _ _ (htext h₂)).1 (.numberText hwrites),
      (hread _ _ (htext h₃)).1 .spaced, (hread _ _ (htext h₄)).1 .lettered,
      List.forall_mem_nil _⟩
  · simp only [List.forall_mem_cons]
    exact ⟨(hread _ _ hnumber).2 (.number hwrites), (hread _ _ (htext h₂)).2 (.numberText hwrites),
      (hread _ _ (htext h₅)).2 .date, List.forall_mem_nil _⟩

end RemoteSql.Cursor
