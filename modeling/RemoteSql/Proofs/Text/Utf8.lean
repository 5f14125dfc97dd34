import Mathlib
import RemoteSql.Text.Utf8

/-!
# Encoded text

Decoding gives back every text that was encoded. An ASCII character is encoded as itself, and the
octets of every other character lie outside ASCII.
-/

namespace RemoteSql.Utf8

section Moves

variable {n : Nat}

theorem toNat_ofNat (h : n < 256) : (UInt8.ofNat n).toNat = n := by
  simp [h]

/-- What a first octet tells, in terms of its number. -/
theorem first_ofNat (h : n < 256) :
    first (UInt8.ofNat n) =
      if n < 0x80 then .scalar (Char.ofNat n)
      else if n < 0xC2 then .illFormed
      else if n < 0xE0 then .more (.within (n - 0xC0) 1 0x80 0xBF)
      else if n < 0xF0 then
        .more (.within (n - 0xE0) 2 (if n = 0xE0 then 0xA0 else 0x80)
          (if n = 0xED then 0x9F else 0xBF))
      else if n < 0xF5 then
        .more (.within (n - 0xF0) 3 (if n = 0xF0 then 0x90 else 0x80)
          (if n = 0xF4 then 0x8F else 0xBF))
      else .illFormed := by
  simp only [first, UInt8.lt_iff_toNat_lt, ← UInt8.toNat_inj, toNat_ofNat h, UInt8.reduceToNat]

theorem first_two (hlow : 2 ≤ n) (hhigh : n < 32) :
    first (UInt8.ofNat (n + 192)) = .more (.within n 1 0x80 0xBF) := by
  have hbits : n + 192 - 0xC0 = n := by omega
  rw [first_ofNat (by omega), if_neg (by omega), if_neg (by omega), if_pos (by omega), hbits]

theorem first_three (h : n < 16) :
    first (UInt8.ofNat (n + 224)) = .more
      (.within n 2 (if n = 0 then 0xA0 else 0x80) (if n = 13 then 0x9F else 0xBF)) := by
  have hbits : n + 224 - 0xE0 = n := by omega
  have hleast : n + 224 = 0xE0 ↔ n = 0 := by omega
  have hsurrogates : n + 224 = 0xED ↔ n = 13 := by omega
  rw [first_ofNat (by omega), if_neg (by omega), if_neg (by omega), if_neg (by omega),
    if_pos (by omega), hbits]
  simp only [hleast, hsurrogates]

theorem first_four (h : n < 5) :
    first (UInt8.ofNat (n + 240)) = .more
      (.within n 3 (if n = 0 then 0x90 else 0x80) (if n = 4 then 0x8F else 0xBF)) := by
  have hbits : n + 240 - 0xF0 = n := by omega
  have hleast : n + 240 = 0xF0 ↔ n = 0 := by omega
  have hgreatest : n + 240 = 0xF4 ↔ n = 4 := by omega
  rw [first_ofNat (by omega), if_neg (by omega), if_neg (by omega), if_neg (by omega),
    if_neg (by omega), if_pos (by omega), hbits]
  simp only [hleast, hgreatest]

theorem continuation_tail (h : n < 64) (bits due : Nat) (low high : UInt8)
    (hlow : low.toNat ≤ n + 128) (hhigh : n + 128 ≤ high.toNat) :
    continuation bits due low high (UInt8.ofNat (n + 128)) =
      if due ≤ 1 then .scalar (Char.ofNat (bits * 64 + n))
      else .more (.within (bits * 64 + n) (due - 1) 0x80 0xBF) := by
  have hn : (UInt8.ofNat (n + 128)).toNat = n + 128 := toNat_ofNat (by omega)
  have hrange : (decide (low ≤ UInt8.ofNat (n + 128)) && decide (UInt8.ofNat (n + 128) ≤ high)) =
      true := by
    simp only [UInt8.le_iff_toNat_le, hn, hlow, hhigh, decide_true, Bool.and_self]
  have hbits : n + 128 - 0x80 = n := by omega
  rw [continuation, if_pos hrange, hn, hbits]

/-- A continuation octet after those whose range is bound. -/
theorem continuation_free (h : n < 64) (bits due : Nat) :
    continuation bits due 0x80 0xBF (UInt8.ofNat (n + 128)) =
      if due ≤ 1 then .scalar (Char.ofNat (bits * 64 + n))
      else .more (.within (bits * 64 + n) (due - 1) 0x80 0xBF) :=
  continuation_tail h bits due 0x80 0xBF (by simp) (by simp; omega)

end Moves

section Decode

variable (rest : Bytes) (done : List Char)

theorem decodeFrom_first {b : UInt8} {c : Char} (h : first b = .scalar c) :
    decodeFrom .ready (b :: rest) done = decodeFrom .ready rest (c :: done) := by
  simp only [decodeFrom, State.step, h]

theorem decodeFrom_first_more {s : State} {b : UInt8} (h : first b = .more s) :
    decodeFrom .ready (b :: rest) done = decodeFrom s rest done := by
  simp only [decodeFrom, State.step, h]

theorem decodeFrom_last {bits due : Nat} {low high b : UInt8} {c : Char}
    (h : continuation bits due low high b = .scalar c) :
    decodeFrom (.within bits due low high) (b :: rest) done =
      decodeFrom .ready rest (c :: done) := by
  simp only [decodeFrom, State.step, h]

theorem decodeFrom_more {bits due : Nat} {low high b : UInt8} {s : State}
    (h : continuation bits due low high b = .more s) :
    decodeFrom (.within bits due low high) (b :: rest) done = decodeFrom s rest done := by
  simp only [decodeFrom, State.step, h]

/-- The numbers of characters leave out the surrogates. -/
theorem toNat_cases (c : Char) : c.toNat < 0xD800 ∨ 0xDFFF < c.toNat ∧ c.toNat < 0x110000 := by
  have hvalid := c.valid
  simpa [UInt32.isValidChar, Nat.isValidChar] using hvalid

/-- The octets of a character, by the number of them. -/
theorem encodeChar_cases (c : Char) :
    (c.toNat < 0x80 ∧ String.utf8EncodeChar c = [UInt8.ofNat c.toNat]) ∨
    (0x80 ≤ c.toNat ∧ c.toNat < 0x800 ∧ String.utf8EncodeChar c =
      [UInt8.ofNat (c.toNat / 64 % 32 + 192), UInt8.ofNat (c.toNat % 64 + 128)]) ∨
    (0x800 ≤ c.toNat ∧ c.toNat < 0x10000 ∧ String.utf8EncodeChar c =
      [UInt8.ofNat (c.toNat / 4096 % 16 + 224), UInt8.ofNat (c.toNat / 64 % 64 + 128),
        UInt8.ofNat (c.toNat % 64 + 128)]) ∨
    (0x10000 ≤ c.toNat ∧ String.utf8EncodeChar c =
      [UInt8.ofNat (c.toNat / 262144 % 8 + 240), UInt8.ofNat (c.toNat / 4096 % 64 + 128),
        UInt8.ofNat (c.toNat / 64 % 64 + 128), UInt8.ofNat (c.toNat % 64 + 128)]) := by
  have hencode : String.utf8EncodeChar c =
      if c.toNat ≤ 127 then [UInt8.ofNat c.toNat]
      else if c.toNat ≤ 2047 then
        [UInt8.ofNat (c.toNat / 64 % 32 + 192), UInt8.ofNat (c.toNat % 64 + 128)]
      else if c.toNat ≤ 65535 then
        [UInt8.ofNat (c.toNat / 4096 % 16 + 224), UInt8.ofNat (c.toNat / 64 % 64 + 128),
          UInt8.ofNat (c.toNat % 64 + 128)]
      else [UInt8.ofNat (c.toNat / 262144 % 8 + 240), UInt8.ofNat (c.toNat / 4096 % 64 + 128),
        UInt8.ofNat (c.toNat / 64 % 64 + 128), UInt8.ofNat (c.toNat % 64 + 128)] := rfl
  rw [hencode]
  by_cases h₁ : c.toNat ≤ 127
  · exact Or.inl ⟨by omega, if_pos h₁⟩
  by_cases h₂ : c.toNat ≤ 2047
  · exact Or.inr (Or.inl ⟨by omega, by omega, by rw [if_neg h₁, if_pos h₂]⟩)
  by_cases h₃ : c.toNat ≤ 65535
  · exact Or.inr (Or.inr (Or.inl ⟨by omega, by omega, by rw [if_neg h₁, if_neg h₂, if_pos h₃]⟩))
  · exact Or.inr (Or.inr (Or.inr ⟨by omega, by rw [if_neg h₁, if_neg h₂, if_neg h₃]⟩))

/-- A character that was encoded is decoded, whatever follows it. -/
theorem decodeFrom_encodeChar (c : Char) :
    decodeFrom .ready (String.utf8EncodeChar c ++ rest) done =
      decodeFrom .ready rest (c :: done) := by
  have hvalid := toNat_cases c
  have hchar : ∀ m, m = c.toNat → Char.ofNat m = c := by
    rintro m rfl
    exact Char.ofNat_toNat c
  rcases encodeChar_cases c with ⟨hn, he⟩ | ⟨hlow, hn, he⟩ | ⟨hlow, hn, he⟩ | ⟨hlow, he⟩
  · have h₁ := first_ofNat (n := c.toNat) (by omega)
    rw [if_pos hn, Char.ofNat_toNat] at h₁
    rw [he, List.singleton_append, decodeFrom_first _ _ h₁]
  · have h₁ := first_two (n := c.toNat / 64 % 32) (by omega) (by omega)
    have h₂ := continuation_free (n := c.toNat % 64) (by omega) (c.toNat / 64 % 32) 1
    rw [if_pos le_rfl, hchar _ (by omega)] at h₂
    simp only [he, List.cons_append, List.nil_append]
    rw [decodeFrom_first_more _ _ h₁, decodeFrom_last _ _ h₂]
  · have h₁ := first_three (n := c.toNat / 4096 % 16) (by omega)
    have h₂ := continuation_tail (n := c.toNat / 64 % 64) (by omega) (c.toNat / 4096 % 16) 2
      (if c.toNat / 4096 % 16 = 0 then 0xA0 else 0x80)
      (if c.toNat / 4096 % 16 = 13 then 0x9F else 0xBF)
      (by split
          · change 160 ≤ c.toNat / 64 % 64 + 128
            omega
          · exact Nat.le_add_left _ _)
      (by split
          · change c.toNat / 64 % 64 + 128 ≤ 159
            omega
          · change c.toNat / 64 % 64 + 128 ≤ 191
            omega)
    have h₃ := continuation_free (n := c.toNat % 64) (by omega)
      (c.toNat / 4096 % 16 * 64 + c.toNat / 64 % 64) 1
    rw [if_neg (show ¬2 ≤ 1 by omega)] at h₂
    rw [if_pos le_rfl, hchar _ (by omega)] at h₃
    simp only [he, List.cons_append, List.nil_append]
    rw [decodeFrom_first_more _ _ h₁, decodeFrom_more _ _ h₂, decodeFrom_last _ _ h₃]
  · have h₁ := first_four (n := c.toNat / 262144 % 8) (by omega)
    have h₂ := continuation_tail (n := c.toNat / 4096 % 64) (by omega) (c.toNat / 262144 % 8) 3
      (if c.toNat / 262144 % 8 = 0 then 0x90 else 0x80)
      (if c.toNat / 262144 % 8 = 4 then 0x8F else 0xBF)
      (by split
          · change 144 ≤ c.toNat / 4096 % 64 + 128
            omega
          · exact Nat.le_add_left _ _)
      (by split
          · change c.toNat / 4096 % 64 + 128 ≤ 143
            omega
          · change c.toNat / 4096 % 64 + 128 ≤ 191
            omega)
    have h₃ := continuation_free (n := c.toNat / 64 % 64) (by omega)
      (c.toNat / 262144 % 8 * 64 + c.toNat / 4096 % 64) 2
    have h₄ := continuation_free (n := c.toNat % 64) (by omega)
      ((c.toNat / 262144 % 8 * 64 + c.toNat / 4096 % 64) * 64 + c.toNat / 64 % 64) 1
    rw [if_neg (show ¬3 ≤ 1 by omega)] at h₂
    rw [if_neg (show ¬2 ≤ 1 by omega)] at h₃
    rw [if_pos le_rfl, hchar _ (by omega)] at h₄
    simp only [he, List.cons_append, List.nil_append]
    rw [decodeFrom_first_more _ _ h₁, decodeFrom_more _ _ h₂, decodeFrom_more _ _ h₃,
      decodeFrom_last _ _ h₄]

theorem decodeFrom_encode (cs : List Char) :
    decodeFrom .ready (cs.flatMap String.utf8EncodeChar) done = some (done.reverse ++ cs) := by
  induction cs generalizing done with
  | nil => simp [decodeFrom]
  | cons c cs ih =>
    rw [List.flatMap_cons, decodeFrom_encodeChar, ih]
    simp

theorem decode?_encode (s : String) : decode? (encode s) = some s := by
  rw [decode?, encode, decodeFrom_encode]
  simp

/-- Nothing is replaced in what is well-formed. -/
theorem decodeLossyFrom_of_decodeFrom {s : State} {bs : Bytes} {done cs : List Char}
    (h : decodeFrom s bs done = some cs) : decodeLossyFrom s bs done = cs := by
  induction bs generalizing s done with
  | nil =>
    cases s with
    | ready =>
      rw [decodeFrom, Option.some.injEq] at h
      rwa [decodeLossyFrom]
    | within => simp [decodeFrom] at h
  | cons b bs ih =>
    cases s with
    | ready =>
      rw [decodeLossyFrom]
      cases hmove : first b with
      | more s => exact ih ((decodeFrom_first_more bs done hmove).symm.trans h)
      | scalar c => exact ih ((decodeFrom_first bs done hmove).symm.trans h)
      | illFormed => simp [decodeFrom, State.step, hmove] at h
    | within bits due low high =>
      rw [decodeLossyFrom]
      cases hmove : continuation bits due low high b with
      | more s => exact ih ((decodeFrom_more bs done hmove).symm.trans h)
      | scalar c => exact ih ((decodeFrom_last bs done hmove).symm.trans h)
      | illFormed => simp [decodeFrom, State.step, hmove] at h

theorem decodeLossy_encode (s : String) : decodeLossy (encode s) = s := by
  have h := decodeFrom_encode [] s.toList
  rw [decodeLossy, encode, decodeLossyFrom_of_decodeFrom h]
  simp

end Decode

/-- The octets of a character beyond ASCII are beyond ASCII. -/
theorem le_of_mem_encodeChar {c : Char} (hc : 0x80 ≤ c.toNat) {b : UInt8}
    (hb : b ∈ String.utf8EncodeChar c) : 0x80 ≤ b.toNat := by
  have hvalid := toNat_cases c
  rcases encodeChar_cases c with ⟨hn, -⟩ | ⟨-, hn, he⟩ | ⟨-, hn, he⟩ | ⟨-, he⟩
  · omega
  · rw [he] at hb
    simp only [List.mem_cons, List.not_mem_nil, or_false] at hb
    rcases hb with rfl | rfl <;> rw [toNat_ofNat (by omega)] <;> omega
  · rw [he] at hb
    simp only [List.mem_cons, List.not_mem_nil, or_false] at hb
    rcases hb with rfl | rfl | rfl <;> rw [toNat_ofNat (by omega)] <;> omega
  · rw [he] at hb
    simp only [List.mem_cons, List.not_mem_nil, or_false] at hb
    rcases hb with rfl | rfl | rfl | rfl <;> rw [toNat_ofNat (by omega)] <;> omega

theorem encodeChar_of_ascii {c : Char} (hc : c.toNat < 0x80) :
    String.utf8EncodeChar c = [UInt8.ofNat c.toNat] := by
  rcases encodeChar_cases c with ⟨-, he⟩ | ⟨hn, -⟩ | ⟨hn, -⟩ | ⟨hn, -⟩
  · exact he
  all_goals omega

theorem eq_of_mem_encodeChar {c : Char} {b : UInt8} (hb : b.toNat < 0x80)
    (h : b ∈ String.utf8EncodeChar c) :
    c = Char.ofNat b.toNat ∧ String.utf8EncodeChar c = [b] := by
  have hc : c.toNat < 0x80 := by
    by_contra hc
    have hle := le_of_mem_encodeChar (by omega) h
    omega
  have hencode := encodeChar_of_ascii hc
  rw [hencode, List.mem_singleton] at h
  rw [h, toNat_ofNat (by omega), Char.ofNat_toNat]
  exact ⟨rfl, hencode⟩

/-- Encoded text can be cut at any octet of ASCII. -/
theorem exists_split_of_encoded {cs : List Char} {b : UInt8} (hb : b.toNat < 0x80)
    {bs bs' : Bytes} (h : cs.flatMap String.utf8EncodeChar = bs ++ b :: bs') :
    ∃ cs₁ cs₂, cs = cs₁ ++ Char.ofNat b.toNat :: cs₂ ∧
      cs₁.flatMap String.utf8EncodeChar = bs ∧ cs₂.flatMap String.utf8EncodeChar = bs' := by
  induction cs generalizing bs with
  | nil => simp at h
  | cons c cs ih =>
    rw [List.flatMap_cons] at h
    rcases List.append_eq_append_iff.mp h with ⟨mid, rfl, hmid⟩ | ⟨mid, hc, hmid⟩
    · obtain ⟨cs₁, cs₂, rfl, rfl, rfl⟩ := ih hmid
      exact ⟨c :: cs₁, cs₂, rfl, List.flatMap_cons, rfl⟩
    · cases mid with
      | nil =>
        have hrest : cs.flatMap String.utf8EncodeChar = [] ++ b :: bs' := hmid.symm
        obtain ⟨cs₁, cs₂, rfl, hcs₁, rfl⟩ := ih hrest
        refine ⟨c :: cs₁, cs₂, rfl, ?_, rfl⟩
        rw [List.flatMap_cons, hcs₁, hc]
        simp
      | cons b' mid =>
        obtain ⟨rfl, rfl⟩ := List.cons.inj hmid
        obtain ⟨rfl, hsingle⟩ := eq_of_mem_encodeChar hb (by rw [hc]; simp)
        rw [hsingle] at hc
        obtain ⟨rfl, hc⟩ : bs = [] ∧ _ := by
          cases bs with
          | nil => exact ⟨rfl, hc⟩
          | cons b'' bs => simp at hc
        obtain rfl : mid = [] := by simpa using hc.symm
        exact ⟨[], cs, rfl, rfl, rfl⟩

/-! ## Order -/

/-- Characters in order have their octets in order, whatever follows. -/
theorem encodeChar_lt {c d : Char} (h : c < d) (bs bs' : Bytes) :
    String.utf8EncodeChar c ++ bs < String.utf8EncodeChar d ++ bs' := by
  have hlt : c.toNat < d.toNat := h
  have hdigits : ∀ n < 0x110000, n / 64 / 64 = n / 4096 ∧ n / 4096 / 64 = n / 262144 ∧
      n / 262144 / 8 = 0 := by omega
  have hbound : ∀ c : Char, c.toNat < 0x110000 := by
    intro c
    have := toNat_cases c
    omega
  have hc := hdigits _ (hbound c)
  have hd := hdigits _ (hbound d)
  -- A longer sequence begins with a greater octet; in sequences of one length the octets are the
  -- digits of the characters.
  rcases encodeChar_cases c with ⟨hn, he⟩ | ⟨hl, hn, he⟩ | ⟨hl, hn, he⟩ | ⟨hl, he⟩ <;>
    rcases encodeChar_cases d with ⟨hn', he'⟩ | ⟨hl', hn', he'⟩ | ⟨hl', hn', he'⟩ | ⟨hl', he'⟩ <;>
    first
    | exact absurd hlt (by omega)
    | rw [he, he']
      simp (disch := omega) only [List.cons_append, List.nil_append, List.cons_lt_cons_iff,
        UInt8.lt_iff_toNat_lt, ← UInt8.toNat_inj, toNat_ofNat]
      omega

/-- The order of texts is the order of their octets. -/
theorem encode_lt {s t : String} (h : s < t) : encode s < encode t := by
  have hlex : List.Lex (· < ·) s.toList t.toList := h
  unfold encode
  generalize s.toList = cs at hlex ⊢
  generalize t.toList = ds at hlex ⊢
  induction hlex with
  | @nil c cs =>
    obtain ⟨b, bs, hb⟩ := List.exists_cons_of_ne_nil (String.utf8EncodeChar_ne_nil (c := c))
    rw [List.flatMap_cons, hb]
    exact List.nil_lt_cons b _
  | rel h => exact encodeChar_lt h _ _
  | cons h ih => exact List.append_left_lt ih

end RemoteSql.Utf8
