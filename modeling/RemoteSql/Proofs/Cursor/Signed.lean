import Mathlib
import RemoteSql.Proofs.Cursor.Getter
import RemoteSql.Proofs.Decimal.Whole
import RemoteSql.Proofs.Fallible

/-!
# Whole numbers in cells

A getter of whole numbers gives the number that the text of its cell writes, if its width can hold
it, and zero for null; it refuses every other text. Getters of different widths therefore agree on
every number that both can hold.
-/

namespace RemoteSql.Cursor

variable {c : Cursor} {col : Column} {raw : String} {type : CellType} {bits : Nat}

/-- A column of the current row has a cell that was made from a JSON value. -/
def Holds (c : Cursor) (col : Column) (v : Json) : Prop :=
  ∃ row name raw, Row.cell row (.object [(name, v)]) = .ok ⟨name, raw⟩ ∧ c.cellText col = .ok raw

theorem Holds.cellText_number {literal : String} (h : c.Holds col (.number literal)) :
    c.cellText col = .ok literal := by
  obtain ⟨row, name, raw, hcell, htext⟩ := h
  have hraw : (Json.number literal).fieldText?.getD nullMarker = literal := by
    simp [Json.fieldText?, Json.render, Json.chars]
  rw [Row.cell, hraw] at hcell
  cases hcell
  exact htext

theorem Holds.cellText_string {text : String} (h : c.Holds col (.string text)) :
    c.cellText col = .ok text := by
  obtain ⟨row, name, raw, hcell, htext⟩ := h
  cases hcell
  exact htext

/-- The marker of null writes no number, so it is never read as one. -/
theorem not_writes_nullMarker (n : Int) : ¬Decimal.Writes nullMarker n := by
  have hnone : Decimal.signed? (Text.trim nullMarker).toList = none := by decide
  rw [← Decimal.signed?_trim_eq_some_iff, hnone]
  exact (Option.some_ne_none n).symm

theorem getSigned_fst (h : c.cellText col = .ok raw) (type : CellType) (bits : Nat) :
    (c.getSigned type bits col).1 = if raw = nullMarker then .ok 0
      else orNotA type col raw (Decimal.readSigned? bits (Text.trim raw)) := by
  rw [getSigned, readWith_fst, h]
  rfl

theorem getSigned_eq_ok_iff (h : c.cellText col = .ok raw) {n : Int} :
    (c.getSigned type bits col).1 = .ok n ↔
      raw = nullMarker ∧ n = 0 ∨ Decimal.Writes raw n ∧ Decimal.FitsSigned bits n := by
  rw [getSigned_fst h]
  by_cases hnull : raw = nullMarker
  · subst hnull
    simp [not_writes_nullMarker, eq_comm]
  · rw [if_neg hnull, ← Decimal.readSigned?_trim_eq_some_iff]
    cases Decimal.readSigned? bits (Text.trim raw) <;> simp [orNotA, hnull]

theorem getSigned_refused (h : c.cellText col = .ok raw)
    (hne : ∀ n, (c.getSigned type bits col).1 ≠ .ok n) :
    (c.getSigned type bits col).1 = .error (.dataFormat (.notA type col raw)) := by
  rw [getSigned_fst h] at hne ⊢
  by_cases hnull : raw = nullMarker
  · exact absurd (if_pos hnull) (hne 0)
  · rw [if_neg hnull] at hne ⊢
    cases hread : Decimal.readSigned? bits (Text.trim raw) with
    | none => rfl
    | some n =>
      rw [hread] at hne
      exact absurd rfl (hne n)

theorem fitsSigned_zero (bits : Nat) : Decimal.FitsSigned bits 0 := by
  have hpos : 0 < Nat.pow 2 (bits - 1) := Nat.pow_pos (by decide)
  exact ⟨by omega, by exact_mod_cast hpos⟩

/-- A number that fits a width fits every greater one. -/
theorem fitsSigned_mono {bits bits' : Nat} (hle : bits ≤ bits') {n : Int}
    (h : Decimal.FitsSigned bits n) : Decimal.FitsSigned bits' n := by
  obtain ⟨hlow, hhigh⟩ := h
  have hpow : Nat.pow 2 (bits - 1) ≤ Nat.pow 2 (bits' - 1) :=
    Nat.pow_le_pow_right (by decide) (by omega)
  exact ⟨by omega, by omega⟩

/-- The getter of a smaller width gives what that of a greater one does, wherever it fits. -/
theorem getSigned_narrow (h : c.cellText col = .ok raw) {type' : CellType} {bits' : Nat}
    (hle : bits ≤ bits') {n : Int} :
    (c.getSigned type bits col).1 = .ok n ↔
      (c.getSigned type' bits' col).1 = .ok n ∧ Decimal.FitsSigned bits n := by
  rw [getSigned_eq_ok_iff h, getSigned_eq_ok_iff h]
  constructor
  · rintro (⟨hnull, rfl⟩ | ⟨hwrites, hfits⟩)
    · exact ⟨Or.inl ⟨hnull, rfl⟩, fitsSigned_zero bits⟩
    · exact ⟨Or.inr ⟨hwrites, fitsSigned_mono hle hfits⟩, hfits⟩
  · rintro ⟨⟨hnull, rfl⟩ | ⟨hwrites, -⟩, hfits⟩
    · exact Or.inl ⟨hnull, rfl⟩
    · exact Or.inr ⟨hwrites, hfits⟩

/-- A text that writes a number is read as that number or refused, by whether the number fits. -/
theorem getSigned_of_writes (h : c.cellText col = .ok raw) {n : Int}
    (hwrites : Decimal.Writes raw n) (type : CellType) (bits : Nat) :
    (c.getSigned type bits col).1 =
      if Decimal.FitsSigned bits n then .ok n else .error (.dataFormat (.notA type col raw)) := by
  split
  · next hfits => exact (getSigned_eq_ok_iff h).mpr (Or.inr ⟨hwrites, hfits⟩)
  · next hfits =>
    refine getSigned_refused h fun m hm => hfits ?_
    rcases (getSigned_eq_ok_iff h).mp hm with ⟨rfl, -⟩ | ⟨hwrites', hfits'⟩
    · exact absurd hwrites (not_writes_nullMarker n)
    · rw [← Decimal.signed?_trim_eq_some_iff] at hwrites hwrites'
      rw [hwrites] at hwrites'
      cases hwrites'
      exact hfits'

/-- The text of a cell, and a whole number that was sent as a JSON number or as its text. -/
theorem Holds.cellText_toString {n : Int} {v : Json} (h : c.Holds col v)
    (hv : v = .number (toString n) ∨ v = .string (toString n)) :
    c.cellText col = .ok (toString n) := by
  rcases hv with rfl | rfl
  · exact h.cellText_number
  · exact h.cellText_string

/-- Getters of whole numbers never wrap. The long one reads zero for null, the number that the text
writes if it fits 64 bits, and nothing else; the narrower ones give the same number or refuse it. So
a number that was sent is read back as it was or refused. -/
theorem signed_getters_exact (h : c.cellText col = .ok raw) :
    (raw = nullMarker → (c.getLong col).1 = .ok 0) ∧
    (∀ n, Decimal.Writes raw n → -2 ^ 63 ≤ n → n < 2 ^ 63 → (c.getLong col).1 = .ok n) ∧
    (raw ≠ nullMarker → (∀ n, Decimal.Writes raw n → ¬(-2 ^ 63 ≤ n ∧ n < 2 ^ 63)) →
      (c.getLong col).1 = .error (.dataFormat (.notA .long col raw))) ∧
    (∀ n, (c.getInt col).1 = .ok n ↔ (c.getLong col).1 = .ok n ∧ -2 ^ 31 ≤ n ∧ n < 2 ^ 31) ∧
    ((∀ n, (c.getInt col).1 ≠ .ok n) →
      (c.getInt col).1 = .error (.dataFormat (.notA .int col raw))) ∧
    (∀ n, (c.getShort col).1 = .ok n ↔ (c.getLong col).1 = .ok n ∧ -2 ^ 15 ≤ n ∧ n < 2 ^ 15) ∧
    ((∀ n, (c.getShort col).1 ≠ .ok n) →
      (c.getShort col).1 = .error (.dataFormat (.notA .short col raw))) ∧
    ∀ (n : Int) (v : Json), (v = .number (toString n) ∨ v = .string (toString n)) →
      c.Holds col v → -2 ^ 63 ≤ n → n < 2 ^ 63 →
      (c.getLong col).1 = .ok n ∧
      (c.getInt col).1 = (if -2 ^ 31 ≤ n ∧ n < 2 ^ 31 then .ok n
        else .error (.dataFormat (.notA .int col (toString n)))) ∧
      (c.getShort col).1 = (if -2 ^ 15 ≤ n ∧ n < 2 ^ 15 then .ok n
        else .error (.dataFormat (.notA .short col (toString n)))) := by
  refine ⟨?_, ?_, ?_, ?_, getSigned_refused h, ?_, getSigned_refused h, ?_⟩
  · intro hnull
    exact (getSigned_eq_ok_iff h).mpr (Or.inl ⟨hnull, rfl⟩)
  · intro n hwrites hlow hhigh
    exact (getSigned_eq_ok_iff h).mpr (Or.inr ⟨hwrites, hlow, hhigh⟩)
  · intro hnull hnone
    refine getSigned_refused h fun n hn => ?_
    rcases (getSigned_eq_ok_iff h).mp hn with ⟨hnull', -⟩ | ⟨hwrites, hfits⟩
    · exact hnull hnull'
    · exact hnone n hwrites hfits
  · intro n
    exact getSigned_narrow h (by decide)
  · intro n
    exact getSigned_narrow h (by decide)
  · intro n v hv hholds hlow hhigh
    have htext := hholds.cellText_toString hv
    have hread := getSigned_of_writes htext (Decimal.writes_toString n)
    exact ⟨(hread .long 64).trans (if_pos ⟨hlow, hhigh⟩), hread .int 32, hread .short 16⟩

/-- The least number of 64 bits, with zeros before its digits and a blank before its sign. -/
theorem signed_getters_exact_least :
    ∃ c : Cursor, openPayload (Utf8.encode
        "\x7b\"status\":\"OK\",\"query_rows\":[[\x7b\"a\":\" -009223372036854775808\"\x7d]]\x7d")
        1 = .ok c ∧
      (c.next.2.getLong (.index 1)).1 = .ok (-9223372036854775808) ∧
      (c.next.2.getInt (.index 1)).1 =
        .error (.dataFormat (.notA .int (.index 1) " -009223372036854775808")) := by
  have htext : (openPayload (Utf8.encode
      "\x7b\"status\":\"OK\",\"query_rows\":[[\x7b\"a\":\" -009223372036854775808\"\x7d]]\x7d")
      1).toOption.map (fun c => (c.next.2.cellText (.index 1)).toOption) =
        some (some " -009223372036854775808") := by decide +kernel
  obtain ⟨c, hc, hcell⟩ := Option.map_eq_some_iff.mp htext
  have hwrites : Decimal.Writes " -009223372036854775808" (-9223372036854775808) :=
    Decimal.signed?_trim_eq_some_iff.mp (by decide +kernel)
  obtain ⟨-, hlong, -, hint, hrefused, -⟩ := signed_getters_exact (eq_ok_of_toOption hcell)
  have hread := hlong _ hwrites (by decide) (by decide)
  refine ⟨c, eq_ok_of_toOption hc, hread, hrefused fun n hn => ?_⟩
  -- What the narrow getter gives would be what the wide one gives, which does not fit.
  obtain ⟨hn, hlow, -⟩ := (hint n).mp hn
  rw [hread] at hn
  cases hn
  exact absurd hlow (by decide)

end RemoteSql.Cursor
