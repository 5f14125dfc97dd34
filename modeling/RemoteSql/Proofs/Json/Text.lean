import Mathlib
import RemoteSql.Json.Text
import RemoteSql.Proofs.Payload.Scanner

/-!
# Strings in JSON text

The scanner of a payload only minds whether a backslash has hidden an octet. The reader of strings
knows more of an escape, but what it knows includes that, so both see the same closing quote.
-/

namespace RemoteSql.Json

open Payload (Quoted)

/-- Whether the next octet follows a backslash. -/
def TextState.escaped : TextState → Bool
  | .escape => true
  | .pairEscape _ => true
  | .plain => false
  | .hex _ _ _ => false
  | .pair _ => false

theorem escaped_of_codeUnit {unit : Nat} {high? : Option Nat} {s : TextState} {out : Bytes}
    (h : codeUnit unit high? = some (s, out)) : s.escaped = false := by
  unfold codeUnit at h
  cases high? with
  | none =>
    simp only at h
    split at h
    · cases h
      rfl
    · split at h
      · cases h
      · cases h
        rfl
  | some high =>
    simp only at h
    split at h
    · cases h
      rfl
    · cases h

theorem not_special_of_hexValue? {b : UInt8} {digit : Nat} (h : Ascii.hexValue? b = some digit) :
    b ≠ Ascii.backslash ∧ b ≠ Ascii.quote := by
  constructor
  · rintro rfl
    cases h
  · rintro rfl
    cases h

/-- An octet that does not close a string is stepped over alike by both. -/
theorem quoted_of_step {s s' : TextState} {b : UInt8} {out body : Bytes}
    (hb : ¬(s = .plain ∧ b = Ascii.quote)) (h : s.step b = some (s', out))
    (hbody : Quoted s'.escaped body) : Quoted s.escaped (b :: body) := by
  cases s with
  | plain =>
    have hquote : b ≠ Ascii.quote := fun hq => hb ⟨rfl, hq⟩
    simp only [TextState.step] at h
    simp only [TextState.escaped, Quoted, if_neg hquote]
    split at h
    · next hslash =>
      cases h
      rw [if_pos hslash]
      exact hbody
    · next hslash =>
      rw [if_neg hslash]
      split at h
      · cases h
      · cases h
        exact hbody
  | escape =>
    simp only [TextState.step] at h
    split at h
    · cases h
      exact hbody
    · obtain ⟨c, -, heq⟩ := Option.map_eq_some_iff.mp h
      cases heq
      exact hbody
  | hex due value high? =>
    obtain ⟨digit, hdigit, h⟩ := Option.bind_eq_some_iff.mp h
    obtain ⟨hslash, hquote⟩ := not_special_of_hexValue? hdigit
    simp only [TextState.escaped, Quoted, if_neg hslash, if_neg hquote]
    dsimp only at h
    split at h
    · rw [escaped_of_codeUnit h] at hbody
      exact hbody
    · cases h
      exact hbody
  | pair high =>
    simp only [TextState.step] at h
    split at h
    · next hslash =>
      cases h
      simp only [TextState.escaped, Quoted, if_pos hslash]
      exact hbody
    · cases h
  | pairEscape high =>
    simp only [TextState.step] at h
    split at h
    · cases h
      exact hbody
    · cases h

/-- A string is read up to the quote where the scanner stops, whatever follows it. -/
theorem exists_quoted_of_textOctets {s : TextState} {bs done octets rest : Bytes}
    (h : textOctets s bs done = some (octets, rest)) :
    ∃ body, bs = body ++ rest ∧ Quoted s.escaped body ∧
      ∀ rest', textOctets s (body ++ rest') done = some (octets, rest') := by
  induction bs generalizing s done with
  | nil => cases h
  | cons b bs ih =>
    rw [textOctets] at h
    split at h
    · next hclose =>
      obtain ⟨rfl, rfl⟩ := hclose
      cases h
      refine ⟨[Ascii.quote], rfl, ?_, ?_⟩
      · have hslash : Ascii.quote ≠ Ascii.backslash := by decide
        simp [TextState.escaped, Quoted, hslash]
      · intro rest'
        rw [List.singleton_append, textOctets, if_pos ⟨rfl, rfl⟩]
    · next hclose =>
      split at h
      · cases h
      · next s' out hstep =>
        obtain ⟨body, rfl, hquoted, hread⟩ := ih h
        refine ⟨b :: body, rfl, quoted_of_step hclose hstep hquoted, ?_⟩
        intro rest'
        rw [List.cons_append, textOctets, if_neg hclose, hstep]
        exact hread rest'

theorem exists_quoted_of_text {bs rest : Bytes} {s : String} (h : text bs = some (s, rest)) :
    ∃ body, bs = body ++ rest ∧ Quoted false body ∧
      ∀ rest', text (body ++ rest') = some (s, rest') := by
  unfold text at h
  split at h
  · cases h
  · next octets rest₀ hoctets =>
    obtain ⟨s', hs, heq⟩ := Option.map_eq_some_iff.mp h
    cases heq
    obtain ⟨body, rfl, hquoted, hread⟩ := exists_quoted_of_textOctets hoctets
    refine ⟨body, rfl, hquoted, ?_⟩
    intro rest'
    simp only [text, hread rest', hs]
    rfl

end RemoteSql.Json
