import Mathlib
import RemoteSql.Proofs.Decimal.Whole
import RemoteSql.Proofs.Json.Spelling

/-!
# Numbers without exponent

A number that is written without exponent is read digit for digit, however many digits it has before
and after the point.
-/

namespace RemoteSql.Json

/-- A number without exponent, as it is written. -/
structure Numeral where
  negative : Bool := false
  whole : Nat
  /-- The digits after the point; without any there is no point. -/
  fraction : List (Fin 10) := []
  deriving DecidableEq, Repr

namespace Numeral

def fractionChars : List (Fin 10) → List Char
  | [] => []
  | d :: ds => '.' :: (d :: ds).map fun d : Fin 10 => Nat.digitChar d

def chars (n : Numeral) : List Char :=
  (if n.negative then ['-'] else []) ++ (Nat.toDigits 10 n.whole ++ fractionChars n.fraction)

def text (n : Numeral) : String := String.ofList n.chars

end Numeral

theorem exists_octet_of_isDigit {c : Char} (hc : c.isDigit = true) :
    ∃ b, String.utf8EncodeChar c = [b] ∧ Ascii.isDigit b = true ∧ Char.ofNat b.toNat = c := by
  have hrange : 0x30 ≤ c.toNat ∧ c.toNat ≤ 0x39 := by
    simpa [Char.isDigit, UInt32.le_iff_toNat_le] using hc
  have hof : (UInt8.ofNat c.toNat).toNat = c.toNat := Utf8.toNat_ofNat (by omega)
  refine ⟨UInt8.ofNat c.toNat, Utf8.encodeChar_of_ascii (by omega), ?_, ?_⟩
  · simp only [Ascii.isDigit, UInt8.le_iff_toNat_le, hof, Bool.and_eq_true, decide_eq_true_eq]
    exact hrange
  · rw [hof, Char.ofNat_toNat]

/-- Octets where no digit follows. -/
def Undigited (bs : Bytes) : Prop := ∀ b ∈ bs.head?, Ascii.isDigit b = false

theorem digits_encoded {cs : List Char} (hcs : ∀ c ∈ cs, c.isDigit = true) {rest : Bytes}
    (hrest : Undigited rest) :
    digits (cs.flatMap String.utf8EncodeChar ++ rest) = (cs, rest) := by
  induction cs with
  | nil =>
    cases rest with
    | nil => rfl
    | cons b rest => simp [digits, hrest b rfl]
  | cons c cs ih =>
    obtain ⟨hc, hcs⟩ := List.forall_mem_cons.mp hcs
    obtain ⟨b, hencode, hdigit, hback⟩ := exists_octet_of_isDigit hc
    have htail := ih hcs
    rw [List.flatMap_cons, hencode, List.cons_append, List.cons_append, List.nil_append]
    simp only [digits, Prod.mk.injEq] at htail ⊢
    simp [hdigit, hback, htail]

theorem someDigits_encoded {cs : List Char} (hne : cs ≠ []) (hcs : ∀ c ∈ cs, c.isDigit = true)
    {rest : Bytes} (hrest : Undigited rest) :
    someDigits (cs.flatMap String.utf8EncodeChar ++ rest) = some (cs, rest) := by
  obtain ⟨c, cs, rfl⟩ := List.exists_cons_of_ne_nil hne
  rw [someDigits, digits_encoded hcs hrest]

/-- Only the number zero is written with a zero in front. -/
theorem exists_toDigits_cons {n : Nat} (hn : n ≠ 0) :
    ∃ c cs, Nat.toDigits 10 n = c :: cs ∧ c ≠ '0' := by
  induction n using Nat.strong_induction_on with
  | _ n ih =>
    by_cases hlt : n < 10
    · exact ⟨_, [], Nat.toDigits_of_lt_base hlt, by simpa using hn⟩
    · obtain ⟨c, cs, hcs, hc⟩ := ih (n / 10) (by omega) (by omega)
      refine ⟨c, cs ++ [Nat.digitChar (n % 10)], ?_, hc⟩
      rw [Nat.toDigits_of_base_le (by decide) (by omega), hcs]
      rfl

theorem wholePart_encoded (n : Nat) {rest : Bytes} (hrest : Undigited rest) :
    wholePart ((Nat.toDigits 10 n).flatMap String.utf8EncodeChar ++ rest) =
      some (Nat.toDigits 10 n, rest) := by
  rw [wholePart_eq]
  by_cases hn : n = 0
  · subst hn
    rfl
  · obtain ⟨c, cs, hcs, hc⟩ := exists_toDigits_cons hn
    have hdigits : ∀ c' ∈ c :: cs, c'.isDigit = true := by
      intro c' hc'
      exact Decimal.isDigit_of_mem_toDigits (hcs ▸ hc')
    obtain ⟨b, hencode, -, hback⟩ := exists_octet_of_isDigit (hdigits c List.mem_cons_self)
    have hb : b ≠ Ascii.zero := by
      rintro rfl
      exact hc hback.symm
    have hsome := someDigits_encoded (List.cons_ne_nil c cs) hdigits hrest
    rw [hcs]
    rw [List.flatMap_cons, hencode, List.cons_append, List.cons_append] at hsome ⊢
    rw [onHead, if_neg hb, hsome]

theorem fractionPart_encoded (ds : List (Fin 10)) :
    fractionPart ((Numeral.fractionChars ds).flatMap String.utf8EncodeChar) =
      some (Numeral.fractionChars ds, []) := by
  rw [fractionPart_eq]
  cases ds with
  | nil => rfl
  | cons d ds =>
    have hdigits : ∀ c ∈ (d :: ds).map (fun d : Fin 10 => Nat.digitChar d), c.isDigit = true := by
      intro c hc
      obtain ⟨d', -, rfl⟩ := List.mem_map.mp hc
      simp [Nat.isDigit_digitChar]
    have hnil : Undigited [] := by simp [Undigited]
    have hsome := someDigits_encoded (by simp) hdigits hnil
    rw [List.append_nil] at hsome
    have hpoint : String.utf8EncodeChar '.' = [Ascii.point] := rfl
    rw [Numeral.fractionChars, List.flatMap_cons, hpoint, List.singleton_append, onHead, if_pos rfl,
      hsome]
    rfl

theorem undigited_fraction (ds : List (Fin 10)) :
    Undigited ((Numeral.fractionChars ds).flatMap String.utf8EncodeChar) := by
  cases ds with
  | nil => simp [Undigited, Numeral.fractionChars]
  | cons d ds =>
    rintro b ⟨⟩
    rfl

theorem magnitude_encoded (n : Nat) (ds : List (Fin 10)) :
    magnitude ((Nat.toDigits 10 n ++ Numeral.fractionChars ds).flatMap String.utf8EncodeChar) =
      some (Nat.toDigits 10 n ++ Numeral.fractionChars ds, []) := by
  rw [magnitude, List.flatMap_append, wholePart_encoded n (undigited_fraction ds)]
  simp only [bind, Option.bind, fractionPart_encoded, exponentPart]
  simp

/-- A number without exponent is its own literal. -/
theorem numberLiteral_encoded (n : Numeral) :
    numberLiteral (Utf8.encode n.text) = some (n.text, []) := by
  have hmagnitude := magnitude_encoded n.whole n.fraction
  have hencode : Utf8.encode n.text = n.chars.flatMap String.utf8EncodeChar := by
    simp [Utf8.encode, Numeral.text]
  rw [hencode, numberLiteral_eq, Numeral.text, Numeral.chars]
  cases n.negative with
  | true =>
    have hminus : String.utf8EncodeChar '-' = [Ascii.minus] := rfl
    rw [if_pos rfl, List.singleton_append, List.flatMap_cons, hminus, List.singleton_append,
      onHead, if_pos rfl, hmagnitude]
    rfl
  | false =>
    obtain ⟨c, cs, hcs⟩ := List.exists_cons_of_ne_nil (Nat.toDigits_ne_nil (n := n.whole) (b := 10))
    have hc : c.isDigit = true := Decimal.isDigit_of_mem_toDigits (hcs ▸ List.mem_cons_self)
    obtain ⟨b, hb, hdigit, -⟩ := exists_octet_of_isDigit hc
    have hne : b ≠ Ascii.minus := by
      rintro rfl
      cases hdigit
    rw [if_neg Bool.false_ne_true, List.nil_append]
    rw [hcs, List.cons_append, List.flatMap_cons, hb, List.singleton_append] at hmagnitude ⊢
    rw [onHead, if_neg hne, hmagnitude]
    rfl

theorem legible_number (n : Numeral) : Legible (.number n.text) := by
  rintro depth body hbody
  obtain rfl : body = Utf8.encode n.text := by simpa only [Spells] using hbody
  obtain ⟨body, hencode, hwritten⟩ :
      ∃ body, Utf8.encode n.text = body ++ [] ∧ Written depth (.number n.text) body :=
    exists_written_number (numberLiteral_encoded n) delimited_nil
  rw [hencode, List.append_nil]
  exact hwritten

end RemoteSql.Json
