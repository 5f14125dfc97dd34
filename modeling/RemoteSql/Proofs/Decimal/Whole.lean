import Mathlib
import RemoteSql.Decimal.Whole
import RemoteSql.Proofs.Text.Blank

/-!
# Whole numbers that were written

The digits of a whole number are read back as that number, and what is read is what an optional sign
and digits stand for, whatever blanks are around them.
-/

namespace RemoteSql.Decimal

theorem isDigit_of_mem_toDigits {n : Nat} {c : Char} (h : c ∈ Nat.toDigits 10 n) :
    c.isDigit = true :=
  Nat.isDigit_of_mem_toDigits (by decide) (by decide) h

theorem ofDigits_toDigits (n : Nat) : ofDigits (Nat.toDigits 10 n) = n := by
  have hpush : pushDigit = fun n c => 10 * n + (c.toNat - '0'.toNat) := by
    funext n c
    rw [pushDigit, Nat.mul_comm]
  have hread : Nat.ofDigitChars 10 (Nat.toDigits 10 n) 0 = n := Nat.ofDigitChars_ten_toDigits
  rw [ofDigits, hpush]
  exact hread

theorem digits?_toDigits (n : Nat) : digits? (Nat.toDigits 10 n) = some n := by
  have hdigits : ∀ c ∈ Nat.toDigits 10 n, c.isDigit = true := fun c hc =>
    isDigit_of_mem_toDigits hc
  rw [digits?, if_pos (by simpa using hdigits), ofDigits_toDigits]

/-- Digits do not begin with a sign. -/
theorem toDigits_ne_cons (n : Nat) {sign : Char} (h : sign.isDigit = false) (cs : List Char) :
    Nat.toDigits 10 n ≠ sign :: cs := by
  intro he
  have hsign : sign.isDigit = true := isDigit_of_mem_toDigits (he ▸ List.mem_cons_self)
  rw [h] at hsign
  cases hsign

theorem unsigned?_toDigits (n : Nat) : unsigned? (Nat.toDigits 10 n) = some n := by
  unfold unsigned?
  split
  · next heq => exact absurd heq (toDigits_ne_cons n rfl _)
  · exact digits?_toDigits n

theorem signed?_toDigits (n : Nat) : signed? (Nat.toDigits 10 n) = some (n : Int) := by
  unfold signed?
  split
  · next heq => exact absurd heq (toDigits_ne_cons n rfl _)
  · rw [unsigned?_toDigits]
    rfl

theorem readUnsigned?_toString {bits n : Nat} (h : n < Nat.pow 2 bits) :
    readUnsigned? bits (toString n) = some n := by
  have hdigits : (toString n).toList = Nat.toDigits 10 n := Nat.toList_repr
  rw [readUnsigned?, hdigits, unsigned?_toDigits]
  exact Option.filter_some_pos (by simpa using h)

/-- The number that digits stand for, the first of them the highest. -/
def valueOf (cs : List Char) : Nat := Nat.ofDigits 10 (cs.reverse.map fun c => c.toNat - '0'.toNat)

/-- A whole number as it is written: at most one sign, and ASCII digits. -/
inductive Denotes : List Char → Int → Prop
  | bare {cs : List Char} (hne : cs ≠ []) (hcs : ∀ c ∈ cs, c.isDigit = true) :
    Denotes cs (valueOf cs)
  | plus {cs : List Char} (hne : cs ≠ []) (hcs : ∀ c ∈ cs, c.isDigit = true) :
    Denotes ('+' :: cs) (valueOf cs)
  | minus {cs : List Char} (hne : cs ≠ []) (hcs : ∀ c ∈ cs, c.isDigit = true) :
    Denotes ('-' :: cs) (-valueOf cs)

/-- A text that holds a whole number, with blanks around it or without. -/
def Writes (s : String) (n : Int) : Prop :=
  ∃ before cs after, s.toList = before ++ (cs ++ after) ∧
    (∀ c ∈ before, Text.isBlank c = true) ∧ (∀ c ∈ after, Text.isBlank c = true) ∧ Denotes cs n

theorem ofDigits_eq_valueOf (cs : List Char) : ofDigits cs = valueOf cs := by
  induction cs using List.reverseRecOn with
  | nil => rfl
  | append_singleton cs c ih =>
    rw [ofDigits, List.foldl_append, ← ofDigits, ih, valueOf, valueOf, List.reverse_append,
      List.reverse_singleton, List.singleton_append, List.map_cons, Nat.ofDigits_cons]
    simp only [List.foldl_cons, List.foldl_nil, pushDigit]
    ring

theorem digits?_eq_some_iff {cs : List Char} {n : Nat} :
    digits? cs = some n ↔ (cs ≠ [] ∧ ∀ c ∈ cs, c.isDigit = true) ∧ valueOf cs = n := by
  simp [digits?, ofDigits_eq_valueOf]

/-- An unsigned number is a whole one that does not begin with a minus. -/
theorem unsigned?_eq_some_iff {cs : List Char} {n : Nat} :
    unsigned? cs = some n ↔ Denotes cs n ∧ cs.head? ≠ some '-' := by
  constructor
  · intro h
    unfold unsigned? at h
    split at h
    · next cs =>
      obtain ⟨⟨hne, hcs⟩, rfl⟩ := digits?_eq_some_iff.mp h
      exact ⟨.plus hne hcs, by simp⟩
    · obtain ⟨⟨hne, hcs⟩, rfl⟩ := digits?_eq_some_iff.mp h
      refine ⟨.bare hne hcs, ?_⟩
      intro hminus
      have hdigit := hcs '-' (List.mem_of_mem_head? hminus)
      cases hdigit
  · rintro ⟨h, hminus⟩
    generalize hm : (n : Int) = m at h
    cases h with
    | @bare cs hne hcs =>
      obtain rfl : n = valueOf cs := Int.ofNat.inj hm
      have hdigits := digits?_eq_some_iff.mpr ⟨⟨hne, hcs⟩, rfl⟩
      unfold unsigned?
      split
      · cases hcs '+' List.mem_cons_self
      · exact hdigits
    | @plus cs hne hcs =>
      obtain rfl : n = valueOf cs := Int.ofNat.inj hm
      exact digits?_eq_some_iff.mpr ⟨⟨hne, hcs⟩, rfl⟩
    | minus => exact absurd rfl hminus

theorem readUnsigned?_eq_some_iff {bits n : Nat} {s : String} :
    readUnsigned? bits s = some n ↔
      (Denotes s.toList n ∧ s.toList.head? ≠ some '-') ∧ n < Nat.pow 2 bits := by
  rw [← unsigned?_eq_some_iff]
  simp [readUnsigned?, Option.filter_eq_some_iff]

/-- A sign is no digit, so digits are read without one. -/
theorem signed?_of_isDigit {cs : List Char} (hcs : ∀ c ∈ cs, c.isDigit = true) :
    signed? cs = (digits? cs).map fun n => (n : Int) := by
  cases cs with
  | nil => rfl
  | cons c cs =>
    have hc : c.isDigit = true := hcs c List.mem_cons_self
    unfold signed? unsigned?
    split
    · next heq =>
      cases heq
      cases hc
    · split
      · next heq =>
        cases heq
        cases hc
      · rfl

theorem signed?_eq_some_iff {cs : List Char} {n : Int} : signed? cs = some n ↔ Denotes cs n := by
  constructor
  · intro h
    unfold signed? at h
    split at h
    · next cs =>
      cases hm : digits? cs with
      | none =>
        rw [hm] at h
        cases h
      | some m =>
        rw [hm] at h
        cases h
        obtain ⟨⟨hne, hcs⟩, rfl⟩ := digits?_eq_some_iff.mp hm
        exact .minus hne hcs
    · cases hm : unsigned? cs with
      | none =>
        rw [hm] at h
        cases h
      | some m =>
        rw [hm] at h
        cases h
        exact (unsigned?_eq_some_iff.mp hm).1
  · intro h
    cases h with
    | bare hne hcs => rw [signed?_of_isDigit hcs, digits?_eq_some_iff.mpr ⟨⟨hne, hcs⟩, rfl⟩]; rfl
    | plus hne hcs => simp [signed?, unsigned?, digits?_eq_some_iff.mpr ⟨⟨hne, hcs⟩, rfl⟩]
    | minus hne hcs => simp [signed?, digits?_eq_some_iff.mpr ⟨⟨hne, hcs⟩, rfl⟩]

theorem isBlank_of_isDigit {c : Char} (hc : c.isDigit = true) : Text.isBlank c = false := by
  have hrange : 0x30 ≤ c.toNat ∧ c.toNat ≤ 0x39 := by
    simpa [Char.isDigit, UInt32.le_iff_toNat_le] using hc
  simp only [Text.isBlank, Bool.or_eq_false_iff, Bool.and_eq_false_iff, beq_eq_false_iff_ne,
    decide_eq_false_iff_not]
  omega

theorem Denotes.isBlank_eq {cs : List Char} {n : Int} (h : Denotes cs n) :
    ∀ c ∈ cs, Text.isBlank c = false := by
  cases h with
  | bare _ hcs => exact fun c hc => isBlank_of_isDigit (hcs c hc)
  | plus _ hcs | minus _ hcs =>
    exact List.forall_mem_cons.mpr ⟨by decide, fun c hc => isBlank_of_isDigit (hcs c hc)⟩

/-- A sign comes first, if at all. -/
theorem Denotes.isDigit_of_mem_tail {cs : List Char} {n : Int} (h : Denotes cs n) :
    ∀ c ∈ cs.tail, c.isDigit = true := by
  cases h with
  | bare _ hcs => exact fun c hc => hcs c (List.mem_of_mem_tail hc)
  | plus _ hcs | minus _ hcs => exact hcs

/-- A text with another character than a digit after its first is no number. -/
theorem readSigned?_eq_none {bits : Nat} {s : String} {before after : List Char} {c : Char}
    (hs : s.toList = before ++ (c :: after)) (hbefore : before ≠ []) (hc : c.isDigit = false) :
    readSigned? bits s = none := by
  refine Option.eq_none_iff_forall_ne_some.mpr fun n hn => ?_
  have hdenotes := signed?_eq_some_iff.mp (readSigned?_eq_some_iff.mp hn).1
  have hmem : c ∈ s.toList.tail := by
    rw [hs, List.tail_append_of_ne_nil hbefore]
    exact List.mem_append_right _ List.mem_cons_self
  rw [hdenotes.isDigit_of_mem_tail c hmem] at hc
  cases hc

/-- What is read of a trimmed text is what the text writes. -/
theorem signed?_trim_eq_some_iff {s : String} {n : Int} :
    signed? (Text.trim s).toList = some n ↔ Writes s n := by
  rw [signed?_eq_some_iff, Text.trim, String.toList_ofList]
  constructor
  · intro h
    obtain ⟨before, after, hs, hbefore, hafter⟩ := Text.exists_trimChars_append s.toList
    exact ⟨before, _, after, hs, hbefore, hafter, h⟩
  · rintro ⟨before, cs, after, hs, hbefore, hafter, h⟩
    rwa [hs, Text.trimChars_append hbefore (fun c hc => h.isBlank_eq c (List.mem_of_mem_head? hc))
      (fun c hc => h.isBlank_eq c (List.mem_of_mem_getLast? hc)) hafter]

theorem readSigned?_trim_eq_some_iff {bits : Nat} {s : String} {n : Int} :
    readSigned? bits (Text.trim s) = some n ↔ Writes s n ∧ FitsSigned bits n := by
  rw [readSigned?_eq_some_iff, signed?_trim_eq_some_iff]

/-- A number and its negative are written by the digits of its magnitude. -/
theorem denotes_toString (n : Int) : Denotes (toString n).toList n := by
  rw [← signed?_eq_some_iff]
  cases n with
  | ofNat n => exact (congrArg signed? Nat.toList_repr).trans (signed?_toDigits n)
  | negSucc n =>
    have hdigits : (toString (Int.negSucc n)).toList = '-' :: Nat.toDigits 10 (n + 1) := by
      simp [Int.toString_eq_repr, Int.repr]
    rw [hdigits, signed?, digits?_toDigits]
    rfl

theorem writes_toString (n : Int) : Writes (toString n) n :=
  ⟨[], _, [], by simp, by simp, by simp, denotes_toString n⟩

end RemoteSql.Decimal
