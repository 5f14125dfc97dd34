import Mathlib
import RemoteSql.Proofs.Payload.Scanner

/-!
# Tokens of a payload

A token is what the scanner takes for one value: a string, brackets with all between them, or a
scalar up to what ends it. Stepping over a value succeeds exactly when blanks and a token stand at
the head. Whether octets are a token depends on what follows through its first octet alone, and
through none at all when the token shows its own end.
-/

namespace RemoteSql.Payload

/-- Octets that the scanner takes for one value when the given octets follow. -/
inductive Token : Bytes → Bytes → Prop
  | text {body : Bytes} (rest : Bytes) (h : Quoted false body) : Token (Ascii.quote :: body) rest
  | nested {b : UInt8} {body : Bytes} (rest : Bytes)
      (hb : b = Ascii.openBrace ∨ b = Ascii.openBracket)
      (h : Nesting.Ends {} (b :: body)) : Token (b :: body) rest
  | scalar {b : UInt8} {body rest : Bytes} (hquote : b ≠ Ascii.quote)
      (hopen : ¬ (b = Ascii.openBrace ∨ b = Ascii.openBracket))
      (hbody : ∀ b' ∈ b :: body, endsScalar b' = false) (hrest : Fenced rest) :
      Token (b :: body) rest

theorem isBlank_of_endsScalar {b : UInt8} (h : endsScalar b = false) : Ascii.isBlank b = false := by
  simp only [endsScalar, Bool.or_eq_false_iff] at h
  exact h.1.1.1

namespace Token

variable {body rest rest' : Bytes}

theorem ne_nil (h : Token body rest) : body ≠ [] := by
  cases h <;> simp

theorem bare (h : Token body rest) (rest' : Bytes) : Bare (body ++ rest') := by
  cases h with
  | text rest h =>
    rw [List.cons_append, bare_cons]
    decide
  | nested rest hb h =>
    rw [List.cons_append, bare_cons]
    rcases hb with rfl | rfl <;> decide
  | scalar hquote hopen hbody hrest =>
    rw [List.cons_append, bare_cons]
    exact isBlank_of_endsScalar (hbody _ List.mem_cons_self)

theorem of_head? (h : Token body rest) (hhead : rest'.head? = rest.head?) : Token body rest' := by
  cases h with
  | text rest h => exact .text rest' h
  | nested rest hb h => exact .nested rest' hb h
  | scalar hquote hopen hbody hrest =>
    refine .scalar hquote hopen hbody ?_
    rw [Fenced, hhead]
    exact hrest

end Token

theorem copyValue_append {blanks body rest : Bytes} (hb : Blanks blanks) (ht : Token body rest)
    (o : Nat) (out : Store) :
    copyValue ⟨o, blanks ++ (body ++ rest)⟩ out =
      .ok (out.keepAll body, ⟨o + blanks.length + body.length, rest⟩) := by
  have hskip : Rest.skipBlank ⟨o, blanks ++ (body ++ rest)⟩ = ⟨o + blanks.length, body ++ rest⟩ :=
    skipBlank_append hb (ht.bare rest) o
  rw [copyValue, hskip]
  cases ht with
  | text rest h =>
    rw [List.cons_append]
    simp only [if_true, copyString, copyText_append h]
    rw [Store.keepAll_cons, List.length_cons]
    congr 3
    omega
  | @nested b body rest hopen h =>
    have hquote : b ≠ Ascii.quote := by
      rcases hopen with rfl | rfl <;> decide
    rw [List.cons_append]
    simp only [if_neg hquote, if_pos hopen, copyNested]
    exact copyBrackets_append h (o + blanks.length) out rest
  | @scalar b body rest hquote hopen hbody hrest =>
    have hcopy := copyScalar_append hbody hrest (o + blanks.length) out
    rw [List.cons_append] at hcopy ⊢
    simp only [if_neg hquote, if_neg hopen, hcopy]
    simp

/-- A value is stepped over only where blanks and a token stand at the head. -/
theorem exists_token_of_copyValue {s : Rest} {out : Store} {r : Store × Rest}
    (h : copyValue s out = .ok r) :
    ∃ blanks body, s.octets = blanks ++ (body ++ r.2.octets) ∧ Blanks blanks ∧
      Token body r.2.octets := by
  obtain ⟨o, bs⟩ := s
  obtain ⟨blanks, tail, rfl, hb, hbare⟩ := exists_blanks bs
  have hskip : Rest.skipBlank ⟨o, blanks ++ tail⟩ = ⟨o + blanks.length, tail⟩ :=
    skipBlank_append hb hbare o
  rw [copyValue, hskip] at h
  suffices hs : ∃ body, tail = body ++ r.2.octets ∧ Token body r.2.octets by
    obtain ⟨body, rfl, ht⟩ := hs
    exact ⟨blanks, body, rfl, hb, ht⟩
  cases tail with
  | nil => simp at h
  | cons b tail =>
    simp only at h
    split at h
    · next hquote =>
      obtain ⟨body, rfl, hq⟩ := exists_quoted_of_copyText h
      exact ⟨b :: body, rfl, hquote ▸ .text _ hq⟩
    · next hquote =>
      split at h
      · next hopen =>
        obtain ⟨body, heq, he⟩ := exists_ends_of_copyBrackets h
        cases body with
        | nil => simp [Nesting.Ends] at he
        | cons c body =>
          obtain ⟨rfl, rfl⟩ := List.cons.inj heq
          exact ⟨b :: body, rfl, .nested _ hopen he⟩
      · next hopen =>
        obtain ⟨body, rest, heq, hbody, hrest⟩ := exists_scalar (b :: tail)
        rw [heq, copyScalar_append hbody hrest] at h
        split at h
        · simp at h
        · next hne =>
          cases body with
          | nil => simp at hne
          | cons c body =>
            obtain ⟨rfl, rfl⟩ := List.cons.inj heq
            simp only [Except.ok.injEq] at h
            subst h
            exact ⟨b :: body, rfl, .scalar hquote hopen hbody hrest⟩

end RemoteSql.Payload
