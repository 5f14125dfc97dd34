import Mathlib
import RemoteSql.Json.Printer
import RemoteSql.Proofs.Json.Spelling

/-!
# Compact text is a spelling

The printer chooses among the spellings of a value the one without white space and with the fewest
escapes. The proof follows the printer, whose recursion is bounded by how deep brackets nest.
-/

namespace RemoteSql.Json

/-- Values whose brackets nest at most so deep. -/
def NestsWithin : Nat → Json → Prop
  | _, .null => True
  | _, .bool _ => True
  | _, .number _ => True
  | _, .string _ => True
  | 0, .array _ => False
  | 0, .object _ => False
  | depth + 1, .array vs => ∀ v ∈ vs, NestsWithin depth v
  | depth + 1, .object ms => ∀ m ∈ ms, NestsWithin depth m.2

/-- Characters as octets. -/
def octets (cs : List Char) : Bytes := cs.flatMap String.utf8EncodeChar

theorem octets_append (cs cs' : List Char) : octets (cs ++ cs') = octets cs ++ octets cs' :=
  List.flatMap_append

theorem octets_cons_of_ascii {c : Char} {b : UInt8} (hc : String.utf8EncodeChar c = [b])
    (cs : List Char) : octets (c :: cs) = b :: octets cs := by
  rw [octets, List.flatMap_cons, hc]
  rfl

theorem hexValue?_hexDigit {n : Nat} (hn : n < 16) :
    ∃ b, String.utf8EncodeChar (hexDigit n) = [b] ∧ Ascii.hexValue? b = some n := by
  interval_cases n <;> exact ⟨_, rfl, rfl⟩

theorem spelledChar_escapeChar (c : Char) : SpelledChar c (octets (escapeChar c)) := by
  have hshort : ∀ (d : Char) (b : UInt8), String.utf8EncodeChar d = [b] → (c, b) ∈ shortEscapes →
      SpelledChar c (octets ['\\', d]) := by
    intro d b hd hc
    have hoctets : octets ['\\', d] = [Ascii.backslash, b] := by
      rw [octets_cons_of_ascii (b := Ascii.backslash) rfl, octets_cons_of_ascii hd]
      rfl
    rw [hoctets]
    exact .short hc
  unfold escapeChar
  split
  · next hc => exact hshort '"' _ rfl (by rw [hc]; decide)
  split
  · next hc => exact hshort '\\' _ rfl (by rw [hc]; decide)
  split
  · next hc => exact hshort 'b' _ rfl (by rw [hc]; decide)
  split
  · next hc => exact hshort 'f' _ rfl (by rw [hc]; decide)
  split
  · next hc => exact hshort 'n' _ rfl (by rw [hc]; decide)
  split
  · next hc => exact hshort 'r' _ rfl (by rw [hc]; decide)
  split
  · next hc => exact hshort 't' _ rfl (by rw [hc]; decide)
  next hquote hslash _ _ _ _ _ =>
  split
  · next hcontrol =>
    obtain ⟨b₁, hb₁, hv₁⟩ := hexValue?_hexDigit (n := c.toNat / 16) (by omega)
    have hmod : hexDigit c.toNat = hexDigit (c.toNat % 16) := by simp [hexDigit]
    obtain ⟨b₀, hb₀, hv₀⟩ := hexValue?_hexDigit (n := c.toNat % 16) (by omega)
    rw [← hmod] at hb₀
    have hoctets : octets ['\\', 'u', '0', '0', hexDigit (c.toNat / 16), hexDigit c.toNat] =
        Ascii.backslash :: Ascii.lowerU :: [Ascii.zero, Ascii.zero, b₁, b₀] := by
      rw [octets_cons_of_ascii (b := Ascii.backslash) rfl,
        octets_cons_of_ascii (b := Ascii.lowerU) rfl, octets_cons_of_ascii (b := Ascii.zero) rfl,
        octets_cons_of_ascii (b := Ascii.zero) rfl, octets_cons_of_ascii hb₁,
        octets_cons_of_ascii hb₀]
      rfl
    have hzero : Ascii.hexValue? Ascii.zero = some 0 := rfl
    have hhex := Hex.mk hzero hzero hv₁ hv₀
    have hunit : ((0 * 16 + 0) * 16 + c.toNat / 16) * 16 + c.toNat % 16 = c.toNat := by omega
    rw [hunit] at hhex
    rw [hoctets]
    exact .unit hhex
  · next hcontrol =>
    have hoctets : octets [c] = String.utf8EncodeChar c := by simp [octets]
    rw [hoctets]
    exact .plain (by omega) hquote hslash

/-- What stands between quotes, with the closing one. -/
theorem spelledText_escaped (cs : List Char) :
    SpelledText cs (octets (cs.flatMap escapeChar ++ ['"'])) := by
  induction cs with
  | nil => exact .nil
  | cons c cs ih =>
    rw [List.flatMap_cons, List.append_assoc, octets_append]
    exact .cons (spelledChar_escapeChar c) ih

theorem octets_quotedChars (s : String) :
    octets (quotedChars s) = Ascii.quote :: octets (s.toList.flatMap escapeChar ++ ['"']) := by
  rw [quotedChars, List.cons_append]
  exact octets_cons_of_ascii rfl _

section Sequence

variable {α : Type} {P : α → Bytes → Prop} {close : UInt8}

/-- Items with a comma between every two, and the closing bracket. -/
def joined (write : α → List Char) : List α → List Char
  | [] => []
  | [a] => write a
  | a :: as => write a ++ ',' :: joined write as

theorem itemChars_eq (vs : List Json) : itemChars vs = joined chars vs := by
  induction vs with
  | nil => rfl
  | cons v vs ih =>
    cases vs with
    | nil => rfl
    | cons v' vs =>
      rw [itemChars, joined, ih]
      all_goals simp

def memberText (m : String × Json) : List Char := quotedChars m.1 ++ ':' :: chars m.2

theorem memberChars_eq (ms : List (String × Json)) : memberChars ms = joined memberText ms := by
  induction ms with
  | nil => rfl
  | cons m ms ih =>
    obtain ⟨name, v⟩ := m
    cases ms with
    | nil => rfl
    | cons m' ms =>
      rw [memberChars, joined, ih]
      all_goals simp [memberText]

theorem listed_joined (write : α → List Char) {as : List α} (hne : as ≠ [])
    (h : ∀ a ∈ as, P a (octets (write a))) :
    Listed P close as (octets (joined write as) ++ [close]) := by
  induction as with
  | nil => exact absurd rfl hne
  | cons a as ih =>
    obtain ⟨ha, has⟩ := List.forall_mem_cons.mp h
    cases as with
    | nil => exact .last ha spaces_nil
    | cons a' as =>
      have htail := ih (List.cons_ne_nil a' as) has
      have hoctets : octets (joined write (a :: a' :: as)) =
          octets (write a) ++ Ascii.comma :: octets (joined write (a' :: as)) := by
        rw [joined, octets_append, octets_cons_of_ascii (b := Ascii.comma) rfl]
        simp
      rw [hoctets, List.append_assoc, List.cons_append]
      have hlisted := Listed.cons ha spaces_nil htail
      exact hlisted

theorem enclosed_joined (write : α → List Char) {as : List α}
    (h : ∀ a ∈ as, P a (octets (write a))) :
    Enclosed P close as (octets (joined write as) ++ [close]) := by
  by_cases hne : as = []
  · subst hne
    exact .empty spaces_nil
  · exact .listed (listed_joined write hne h)

end Sequence

theorem spaced_of {α : Type} {P : α → Bytes → Prop} {a : α} {body : Bytes} (h : P a body) :
    Spaced P a body :=
  ⟨[], body, rfl, spaces_nil, h⟩

theorem named_memberText {P : Json → Bytes → Prop} {m : String × Json}
    (h : P m.2 (octets (chars m.2))) : Named P m (octets (memberText m)) := by
  have hcolon : octets (':' :: chars m.2) = Ascii.colon :: octets (chars m.2) :=
    octets_cons_of_ascii rfl _
  rw [memberText, octets_append, octets_quotedChars, hcolon]
  have hnamed : Named P m _ :=
    .mk spaces_nil (spelledText_escaped m.1.toList) spaces_nil (spaced_of h)
  exact hnamed

theorem spells_chars {depth : Nat} {v : Json} (h : NestsWithin depth v) :
    Spells depth v (octets (chars v)) := by
  induction depth generalizing v with
  | zero =>
    cases v with
    | array | object => simp only [NestsWithin] at h
    | null => rfl
    | bool b => cases b <;> rfl
    | number literal => rfl
    | string s =>
      simp only [Spells]
      exact ⟨_, by rw [chars]; exact octets_quotedChars s, spelledText_escaped _⟩
  | succ depth ih =>
    cases v with
    | null => rfl
    | bool b => cases b <;> rfl
    | number literal => rfl
    | string s =>
      simp only [Spells]
      exact ⟨_, by rw [chars]; exact octets_quotedChars s, spelledText_escaped _⟩
    | array vs =>
      simp only [NestsWithin] at h
      simp only [Spells]
      refine ⟨octets (joined chars vs) ++ [Ascii.closeBracket], ?_, ?_⟩
      · rw [chars, itemChars_eq, List.cons_append,
          octets_cons_of_ascii (b := Ascii.openBracket) rfl, octets_append]
        rfl
      · exact enclosed_joined chars fun v hv => spaced_of (ih (h v hv))
    | object ms =>
      simp only [NestsWithin] at h
      simp only [Spells]
      refine ⟨octets (joined memberText ms) ++ [Ascii.closeBrace], ?_, ?_⟩
      · rw [chars, memberChars_eq, List.cons_append,
          octets_cons_of_ascii (b := Ascii.openBrace) rfl, octets_append]
        rfl
      · exact enclosed_joined memberText fun m hm => named_memberText (ih (h m hm))

/-- The compact text of a value is one of its spellings. -/
theorem spells_render {depth : Nat} {v : Json} (h : NestsWithin depth v) :
    Spells depth v (Utf8.encode v.render) := by
  have hencode : Utf8.encode v.render = octets (chars v) := by
    simp [Utf8.encode, render, octets]
  rw [hencode]
  exact spells_chars h

end RemoteSql.Json
