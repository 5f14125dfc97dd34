import Mathlib
import RemoteSql.Proofs.Url.Form
import RemoteSql.Url.Path

/-!
# Segments that were encoded

A segment that was percent encoded is decoded to the same text, whatever it holds, since the percent
sign is encoded as well. No mark of the set is left in it, and only a dot or two dots become what a
path takes for them.
-/

namespace RemoteSql.Url

variable {set : EncodeSet} {c : Char} {cs rest : List Char}

theorem decode_flatMap_encodeOctet (bs : Bytes) (rest : List Char) :
    decode (bs.flatMap encodeOctet ++ rest) = bs ++ decode rest := by
  induction bs with
  | nil => rfl
  | cons b bs ih => rw [List.flatMap_cons, List.append_assoc, decode_encodeOctet, ih, List.cons_append]

theorem encodeChar_cases (set : EncodeSet) (c : Char) :
    encodeChar set c = [c] ∧ c.toNat < 0x80 ∧ set c = false ∨
      encodeChar set c = (String.utf8EncodeChar c).flatMap encodeOctet ∧
        (set c = true ∨ 0x80 ≤ c.toNat) := by
  unfold encodeChar
  split
  · next h =>
    simp only [Bool.and_eq_true, decide_eq_true_eq, Bool.not_eq_true'] at h
    exact Or.inl ⟨rfl, h⟩
  · next h =>
    simp only [Bool.and_eq_true, decide_eq_true_eq, Bool.not_eq_true', not_and, Bool.not_eq_false]
      at h
    refine Or.inr ⟨rfl, ?_⟩
    by_cases hc : c.toNat < 0x80
    · exact Or.inl (h hc)
    · exact Or.inr (by omega)

theorem ne_percent_of_not_set (hset : set '%' = true) (hc : set c = false) : c ≠ '%' := by
  rintro rfl
  rw [hset] at hc
  cases hc

theorem decode_encode (hset : set '%' = true) (cs : List Char) :
    decode (encode set cs) = cs.flatMap String.utf8EncodeChar := by
  unfold encode
  induction cs with
  | nil => rfl
  | cons c cs ih =>
    rw [List.flatMap_cons, List.flatMap_cons]
    rcases encodeChar_cases set c with ⟨hencode, -, hc⟩ | ⟨hencode, -⟩
    · rw [hencode, List.singleton_append, decode_cons (ne_percent_of_not_set hset hc), ih]
    · rw [hencode, decode_flatMap_encodeOctet, ih]

theorem decode?_decode_encode (hset : set '%' = true) (s : String) :
    Utf8.decode? (decode (encode set s.toList)) = some s := by
  rw [decode_encode hset]
  exact Utf8.decode?_encode s

theorem not_mem_encode (hset : set c = true) (hhex : hexDigit? c = none) (hpercent : c ≠ '%')
    (cs : List Char) : c ∉ encode set cs := by
  intro hmem
  obtain ⟨d, -, hd⟩ := List.mem_flatMap.mp hmem
  rcases encodeChar_cases set d with ⟨hencode, -, hd'⟩ | ⟨hencode, -⟩
  · rw [hencode, List.mem_singleton] at hd
    rw [← hd, hset] at hd'
    cases hd'
  · rw [hencode] at hd
    obtain ⟨b, -, hb⟩ := List.mem_flatMap.mp hd
    exact not_mem_encodeOctet hhex hpercent b hb

theorem encode_ne_nil (h : cs ≠ []) (set : EncodeSet) : encode set cs ≠ [] := by
  obtain ⟨c, cs, rfl⟩ := List.exists_cons_of_ne_nil h
  intro hnil
  rw [encode, List.flatMap_cons, List.append_eq_nil_iff] at hnil
  obtain ⟨b, bs, hb⟩ := List.exists_cons_of_ne_nil (String.utf8EncodeChar_ne_nil (c := c))
  rcases encodeChar_cases set c with ⟨hencode, -⟩ | ⟨hencode, -⟩
  · rw [hencode] at hnil
    simp at hnil
  · rw [hencode, hb] at hnil
    simp [encodeOctet] at hnil

/-! ## Marks that are not left -/

/-- None of the marks stands in the text. -/
def Free (marks cs : List Char) : Prop := ∀ c ∈ marks, c ∉ cs

namespace Free

variable {marks cs ds : List Char}

theorem append (hcs : Free marks cs) (hds : Free marks ds) : Free marks (cs ++ ds) := by
  intro c hc
  rw [List.mem_append, not_or]
  exact ⟨hcs c hc, hds c hc⟩

theorem cons {d : Char} (hd : d ∉ marks) (hds : Free marks ds) : Free marks (d :: ds) := by
  intro c hc
  rw [List.mem_cons, not_or]
  refine ⟨?_, hds c hc⟩
  rintro rfl
  exact hd hc

theorem nil : Free marks [] := fun _ _ => List.not_mem_nil

theorem of_marks {marks' : List Char} (hcs : Free marks cs) (h : marks' ⊆ marks) : Free marks' cs :=
  fun c hc => hcs c (h hc)

theorem of_subset (hcs : Free marks cs) (h : ds ⊆ cs) : Free marks ds :=
  fun c hc hmem => hcs c hc (h hmem)

theorem encode {set : EncodeSet}
    (h : (marks.all fun c => set c && (hexDigit? c).isNone && c != '%') = true) (cs : List Char) :
    Free marks (Url.encode set cs) := by
  intro c hc
  have hmark := List.all_eq_true.mp h c hc
  simp only [Bool.and_eq_true, Option.isNone_iff_eq_none, bne_iff_ne] at hmark
  exact not_mem_encode hmark.1.1 hmark.1.2 hmark.2 cs

theorem of_all {p : Char → Bool} (hcs : ∀ c ∈ cs, p c = true)
    (hmarks : (marks.all fun c => !p c) = true) : Free marks cs := by
  intro c hc hmem
  have hmark := List.all_eq_true.mp hmarks c hc
  rw [hcs c hmem] at hmark
  cases hmark

end Free

/-! ## Dots -/

namespace Path

theorem plainDots_cons (hc : c ≠ '%') (rest : List Char) :
    plainDots (c :: rest) = c :: plainDots rest := by
  rw [plainDots]
  · rintro tail rfl -
    exact hc rfl
  · rintro tail rfl -
    exact hc rfl

/-- Only the octet of a dot is written as an encoded dot. -/
theorem plainDots_encodeOctet {b : UInt8} (hb : b ≠ 0x2E) (rest : List Char) :
    plainDots (encodeOctet b ++ rest) = encodeOctet b ++ plainDots rest := by
  have hhigh : upperHex (b.toNat / 16) ≠ '%' := upperHex_ne rfl _
  have hlow : upperHex b.toNat ≠ '%' := upperHex_ne rfl _
  have hdot : ¬(upperHex (b.toNat / 16) = '2' ∧
      (upperHex b.toNat = 'e' ∨ upperHex b.toNat = 'E')) := by
    rintro ⟨htwo, he⟩
    have hquot := hexDigit?_upperHex (b.toNat / 16)
    have hrem := hexDigit?_upperHex b.toNat
    have h14 : b.toNat % 16 = 14 := by
      rcases he with he | he <;> rw [he] at hrem <;> exact (Option.some.inj hrem).symm
    rw [htwo] at hquot
    have h2 : b.toNat / 16 % 16 = 2 := (Option.some.inj hquot).symm
    have hlt := b.toNat_lt
    refine hb (UInt8.toNat_inj.mp ?_)
    change b.toNat = 46
    omega
  simp only [encodeOctet, List.cons_append, List.nil_append]
  rw [plainDots, plainDots_cons hhigh, plainDots_cons hlow]
  · rintro tail - htail
    simp only [List.cons.injEq] at htail
    exact hdot ⟨htail.1, Or.inl htail.2.1⟩
  · rintro tail - htail
    simp only [List.cons.injEq] at htail
    exact hdot ⟨htail.1, Or.inr htail.2.1⟩

theorem plainDots_encode (hpercent : set '%' = true) (hdot : set '.' = false) (cs : List Char) :
    plainDots (encode set cs) = encode set cs := by
  unfold encode
  induction cs with
  | nil => rfl
  | cons c cs ih =>
    rw [List.flatMap_cons]
    rcases encodeChar_cases set c with ⟨hencode, -, hc⟩ | ⟨hencode, hc⟩
    · rw [hencode, List.singleton_append, plainDots_cons (ne_percent_of_not_set hpercent hc), ih]
    · -- a dot is not encoded, and no octet of another character is that of a dot
      have hoctets : ∀ b ∈ String.utf8EncodeChar c, b ≠ 0x2E := by
        rintro b hb rfl
        obtain ⟨rfl, -⟩ := Utf8.eq_of_mem_encodeChar (by decide) hb
        rcases hc with hc | hc
        · rw [show Char.ofNat (0x2E : UInt8).toNat = '.' from rfl, hdot] at hc
          cases hc
        · exact absurd hc (by decide)
      rw [hencode]
      generalize String.utf8EncodeChar c = bs at hoctets
      induction bs with
      | nil => exact ih
      | cons b bs ihb =>
        rw [List.flatMap_cons, List.append_assoc, plainDots_encodeOctet (hoctets b (by simp)),
          ihb fun b' hb' => hoctets b' (by simp [hb'])]

theorem eq_of_encode_eq (hset : set '%' = true) {cs ds : List Char} (h : encode set cs = encode set ds) :
    cs = ds := by
  have hoctets := congrArg (fun cs => Utf8.decode? (decode cs)) h
  have hread : ∀ cs, Utf8.decode? (decode (encode set cs)) = some (String.ofList cs) := by
    intro cs
    simpa using decode?_decode_encode hset (String.ofList cs)
  simp only [hread, Option.some.injEq] at hoctets
  simpa using congrArg String.toList hoctets

end Path

end RemoteSql.Url
