import Mathlib
import RemoteSql.Proofs.Text.Utf8
import RemoteSql.Url.Form

/-!
# Forms that were encoded

A form that was encoded is parsed to the same names and values in the same order, whatever they
hold: no octet of theirs is written with a mark that joins names, values and pairs.
-/

namespace RemoteSql

namespace Text

/-- Cutting a text at a mark is the splitting of lists. -/
theorem splitAt_eq_splitOn (mark : Char) (cs : List Char) : splitAt mark cs = cs.splitOn mark := by
  induction cs with
  | nil => rfl
  | cons c cs ih =>
    rw [splitAt, List.splitOn_cons_eq_if_modifyHead, ih]
    by_cases hc : c = mark
    · rw [if_pos hc, if_pos (beq_iff_eq.mpr hc)]
    · rw [if_neg hc, if_neg (by simpa using hc)]
      obtain ⟨part, parts, hparts⟩ := List.exists_cons_of_ne_nil (List.splitOn_ne_nil mark cs)
      rw [hparts]
      rfl

end Text

namespace Url

theorem hexDigit?_upperHex (n : Nat) : hexDigit? (upperHex n) = some (n % 16) := by
  have hall : ∀ k < 16, hexDigit? (Nat.digitChar k).toUpper = some k := by decide
  exact hall (n % 16) (Nat.mod_lt n (by decide))

theorem upperHex_ne {c : Char} (hc : hexDigit? c = none) (n : Nat) : upperHex n ≠ c := by
  rintro rfl
  rw [hexDigit?_upperHex] at hc
  cases hc

theorem decode_cons {c : Char} (hc : c ≠ '%') (rest : List Char) :
    decode (c :: rest) = String.utf8EncodeChar c ++ decode rest := by
  rw [decode]
  rintro a b tail rfl -
  exact hc rfl

theorem decode_encodeOctet (b : UInt8) (rest : List Char) :
    decode (encodeOctet b ++ rest) = b :: decode rest := by
  have hb : 16 * (b.toNat / 16 % 16) + b.toNat % 16 = b.toNat := by
    have := b.toNat_lt
    omega
  rw [encodeOctet, List.cons_append, List.cons_append, List.singleton_append, decode,
    hexDigit?_upperHex, hexDigit?_upperHex]
  simp [hb]

theorem not_mem_encodeOctet {c : Char} (hc : hexDigit? c = none) (hpercent : c ≠ '%') (b : UInt8) :
    c ∉ encodeOctet b := by
  have hhigh : c ≠ upperHex (b.toNat / 16) := (upperHex_ne hc _).symm
  have hlow : c ≠ upperHex b.toNat := (upperHex_ne hc _).symm
  simp [encodeOctet, hpercent, hhigh, hlow]

namespace Form

/-- The marks that join names, values and pairs. -/
def marks : List Char := ['&', '=']

theorem isPlain_lt {b : UInt8} (h : isPlain b = true) : b.toNat < 0x80 := by
  simp only [isPlain, Ascii.isDigit, Bool.or_eq_true, Bool.and_eq_true, decide_eq_true_eq,
    beq_iff_eq, UInt8.le_iff_toNat_le, ← UInt8.toNat_inj, UInt8.reduceToNat] at h
  omega

theorem ne_of_isPlain {b : UInt8} {c : Char} (h : isPlain b = true)
    (hc : isPlain (UInt8.ofNat c.toNat) = false) : Char.ofNat b.toNat ≠ c := by
  rintro rfl
  have hb : (Char.ofNat b.toNat).toNat = b.toNat := by
    have := isPlain_lt h
    rw [Char.toNat_ofNat, if_pos (Or.inl (by omega))]
  rw [hb, UInt8.ofNat_toNat, h] at hc
  cases hc

theorem not_mem_encodeOctet {mark : Char} (h : mark ∈ marks) (b : UInt8) :
    mark ∉ encodeOctet b := by
  have hmark : isPlain (UInt8.ofNat mark.toNat) = false ∧ mark ≠ '+' ∧ mark ≠ '%' ∧
      hexDigit? mark = none := by
    rw [marks, List.mem_pair] at h
    rcases h with rfl | rfl <;> exact ⟨rfl, by decide, by decide, rfl⟩
  obtain ⟨hplain, hplus, hpercent, hhex⟩ := hmark
  rw [encodeOctet]
  split
  · next hb => simpa using (ne_of_isPlain hb hplain).symm
  · split
    · simpa using hplus
    · exact Url.not_mem_encodeOctet hhex hpercent b

theorem not_mem_encodePart {mark : Char} (h : mark ∈ marks) (s : String) :
    mark ∉ encodePart s := by
  intro hmem
  obtain ⟨b, -, hb⟩ := List.mem_flatMap.mp hmem
  exact not_mem_encodeOctet h b hb

/-- A plus sign stands for a space. -/
def unplus (c : Char) : Char := if c = '+' then ' ' else c

theorem map_unplus {cs : List Char} (h : '+' ∉ cs) : cs.map unplus = cs := by
  refine (List.map_congr_left fun c hc => ?_).trans (List.map_id cs)
  have hne : c ≠ '+' := by
    rintro rfl
    exact h hc
  exact if_neg hne

theorem decode_octet (b : UInt8) (rest : List Char) :
    decode ((encodeOctet b).map unplus ++ rest) = b :: decode rest := by
  rw [encodeOctet]
  split
  · next hb =>
    have hlt := isPlain_lt hb
    have hplus : Char.ofNat b.toNat ≠ '+' := ne_of_isPlain hb rfl
    have hpercent : Char.ofNat b.toNat ≠ '%' := ne_of_isPlain hb rfl
    have hnat : (Char.ofNat b.toNat).toNat = b.toNat := by
      rw [Char.toNat_ofNat, if_pos (Or.inl (by omega))]
    rw [map_unplus (by simpa using hplus.symm), List.singleton_append, decode_cons hpercent,
      Utf8.encodeChar_of_ascii (by omega), hnat, UInt8.ofNat_toNat, List.singleton_append]
  · split
    · next hb =>
      subst hb
      rfl
    · rw [map_unplus (Url.not_mem_encodeOctet rfl (by decide) b), decode_encodeOctet]

theorem decode_octets (bs : Bytes) : decode ((bs.flatMap encodeOctet).map unplus) = bs := by
  induction bs with
  | nil => rfl
  | cons b bs ih => rw [List.flatMap_cons, List.map_append, decode_octet, ih]

theorem parsePart_encodePart (s : String) : parsePart (encodePart s) = s := by
  change Utf8.decodeLossy (decode ((encodePart s).map unplus)) = s
  rw [encodePart, decode_octets, Utf8.decodeLossy_encode]

theorem parsePair_encodePair (p : String × String) : parsePair (encodePair p) = p := by
  have hname : ∀ c ∈ encodePart p.1, (c != '=') = true := by
    intro c hc
    rw [bne_iff_ne]
    rintro rfl
    exact not_mem_encodePart (by decide) p.1 hc
  have htake : (encodePair p).takeWhile (· != '=') = encodePart p.1 := by
    rw [encodePair, List.takeWhile_append_of_pos hname]
    simp
  have hdrop : (encodePair p).dropWhile (· != '=') = '=' :: encodePart p.2 := by
    rw [encodePair, List.dropWhile_append_of_pos hname]
    simp
  rw [parsePair, htake, hdrop, List.drop_one, List.tail_cons, parsePart_encodePart,
    parsePart_encodePart]

theorem not_mem_encodePair (p : String × String) : '&' ∉ encodePair p := by
  have hmark : '&' ∈ marks := by decide
  simp [encodePair, not_mem_encodePart hmark]

theorem splitOn_encodeChars {ps : List (String × String)} (h : ps ≠ []) :
    (encodeChars ps).splitOn '&' = ps.map encodePair := by
  induction ps with
  | nil => exact absurd rfl h
  | cons p ps ih =>
    cases ps with
    | nil => exact List.splitOn_eq_singleton (not_mem_encodePair p)
    | cons p' ps =>
      rw [encodeChars, List.splitOn_append_cons_self_of_not_mem (not_mem_encodePair p),
        ih (by simp)]
      · rfl
      · simp

theorem parse_encode (ps : List (String × String)) : parse (encode ps) = ps := by
  rw [parse, encode, String.toList_ofList]
  by_cases h : ps = []
  · subst h
    rfl
  · have hparts : ∀ part ∈ ps.map encodePair, (!part.isEmpty) = true := by
      intro part hpart
      obtain ⟨p, -, rfl⟩ := List.mem_map.mp hpart
      simp [encodePair]
    rw [Text.splitAt_eq_splitOn, splitOn_encodeChars h, List.filter_eq_self.mpr hparts, List.map_map]
    refine (List.map_congr_left fun p _ => ?_).trans (List.map_id ps)
    exact parsePair_encodePair p

end Form

end Url

end RemoteSql
