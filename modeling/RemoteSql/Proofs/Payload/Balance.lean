import Mathlib
import RemoteSql.Proofs.Json.Sequence

/-!
# Balanced stretches

Inside brackets the scanner counts brackets and hops over strings. A stretch that it walks through
without a change of the count is balanced. Balanced stretches may follow one another, and brackets
around one make a balanced stretch that ends where the scanner expects it to.
-/

namespace RemoteSql.Payload

open Json (Spaces Listed Enclosed isSpace isDelimiter)

/-- Where the scanner stands after some octets, unless they close the last open bracket. -/
def Nesting.walk (n : Nesting) : Bytes → Option Nesting
  | [] => some n
  | b :: rest => (n.step b).bind fun n => n.walk rest

theorem Nesting.walk_append (n : Nesting) (bs bs' : Bytes) :
    n.walk (bs ++ bs') = (n.walk bs).bind fun n => n.walk bs' := by
  induction bs generalizing n with
  | nil => rfl
  | cons b bs ih =>
    rw [List.cons_append, walk, walk]
    cases n.step b with
    | none => rfl
    | some m => exact ih m

/-- Octets that leave the count of open brackets as it is. -/
def Balanced (bs : Bytes) : Prop :=
  ∀ k, Nesting.walk { depth := k + 1 } bs = some { depth := k + 1 }

/-- Octets that mean nothing to the count of brackets. -/
def Plain (b : UInt8) : Prop :=
  b ≠ Ascii.quote ∧ ¬(b = Ascii.openBrace ∨ b = Ascii.openBracket) ∧
    ¬(b = Ascii.closeBrace ∨ b = Ascii.closeBracket)

instance : DecidablePred Plain := fun _ => inferInstanceAs (Decidable (_ ∧ _ ∧ _))

theorem balanced_nil : Balanced [] := fun _ => rfl

theorem Balanced.append {bs bs' : Bytes} (h : Balanced bs) (h' : Balanced bs') :
    Balanced (bs ++ bs') := by
  intro k
  rw [Nesting.walk_append, h k]
  exact h' k

theorem Balanced.cons {b : UInt8} {bs : Bytes} (hb : Plain b) (h : Balanced bs) :
    Balanced (b :: bs) := by
  intro k
  have hstep : Nesting.step { depth := k + 1 } b = some { depth := k + 1 } := by
    simp [Nesting.step, hb.1, hb.2.1, hb.2.2]
  rw [Nesting.walk, hstep]
  exact h k

theorem balanced_of_plain {bs : Bytes} (h : ∀ b ∈ bs, Plain b) : Balanced bs := by
  induction bs with
  | nil => exact balanced_nil
  | cons b bs ih =>
    exact .cons (h b List.mem_cons_self) (ih fun c hc => h c (List.mem_cons_of_mem b hc))

theorem plain_of_isSpace {b : UInt8} (h : isSpace b = true) : Plain b := by
  simp only [isSpace, Bool.or_eq_true, beq_iff_eq] at h
  rcases h with ((rfl | rfl) | rfl) | rfl <;> decide

theorem balanced_spaces {bs : Bytes} (h : Spaces bs) : Balanced bs :=
  balanced_of_plain fun b hb => plain_of_isSpace (h b hb)

/-- From inside a string the scanner walks to its closing quote. -/
theorem walk_of_quoted {escaped : Bool} {body : Bytes} (h : Quoted escaped body) (k : Nat) :
    Nesting.walk ⟨k, true, escaped⟩ body = some ⟨k, false, false⟩ := by
  induction body generalizing escaped with
  | nil => exact h.elim
  | cons b body ih =>
    rw [Nesting.walk]
    cases escaped with
    | true =>
      have hstep : Nesting.step ⟨k, true, true⟩ b = some ⟨k, true, false⟩ := by
        simp [Nesting.step]
      rw [hstep]
      exact ih h
    | false =>
      simp only [Quoted] at h
      split at h
      · next hslash =>
        have hstep : Nesting.step ⟨k, true, false⟩ b = some ⟨k, true, true⟩ := by
          simp [Nesting.step, hslash]
        rw [hstep]
        exact ih h
      · next hslash =>
        split at h
        · next hquote =>
          subst hquote
          rw [h]
          rfl
        · next hquote =>
          have hstep : Nesting.step ⟨k, true, false⟩ b = some ⟨k, true, false⟩ := by
            simp [Nesting.step, hslash, hquote]
          rw [hstep]
          exact ih h

theorem balanced_text {body : Bytes} (h : Quoted false body) :
    Balanced (Ascii.quote :: body) := fun k => walk_of_quoted h (k + 1)

section Brackets

variable {opening close : UInt8} (hopen : opening = Ascii.openBrace ∨ opening = Ascii.openBracket)
  (hclose : close = Ascii.closeBrace ∨ close = Ascii.closeBracket)

include hopen in
theorem step_opening (k : Nat) :
    Nesting.step { depth := k } opening = some { depth := k + 1 } := by
  rcases hopen with rfl | rfl <;> rfl

include hclose in
theorem step_close (k : Nat) :
    Nesting.step { depth := k + 1 } close = if k = 0 then none else some { depth := k } := by
  rcases hclose with rfl | rfl <;> cases k <;> rfl

include hopen hclose in
theorem balanced_brackets {inner : Bytes} (h : Balanced inner) :
    Balanced (opening :: (inner ++ [close])) := by
  intro k
  rw [Nesting.walk, step_opening hopen]
  change Nesting.walk { depth := k + 1 + 1 } (inner ++ [close]) = _
  rw [Nesting.walk_append, h (k + 1)]
  change Nesting.walk { depth := k + 1 + 1 } [close] = _
  rw [Nesting.walk, step_close hclose, if_neg k.succ_ne_zero]
  rfl

theorem ends_append {n m : Nesting} {bs bs' : Bytes} (h : n.walk bs = some m) (h' : m.Ends bs') :
    n.Ends (bs ++ bs') := by
  induction bs generalizing n with
  | nil =>
    cases h
    exact h'
  | cons b bs ih =>
    obtain ⟨n', hstep, hwalk⟩ := Option.bind_eq_some_iff.mp h
    simpa [Nesting.Ends, hstep] using ih hwalk

include hopen hclose in
theorem ends_brackets {inner : Bytes} (h : Balanced inner) :
    Nesting.Ends {} (opening :: (inner ++ [close])) := by
  have hend : Nesting.Ends { depth := 1 } [close] := by
    simp [Nesting.Ends, step_close hclose 0]
  have hinner : Nesting.Ends { depth := 1 } (inner ++ [close]) := ends_append (h 0) hend
  simpa [Nesting.Ends, step_opening hopen 0] using hinner

end Brackets

/-- Items that are balanced make a balanced stretch up to the closing bracket. -/
theorem exists_inner_of_listed {α : Type} {P : α → Bytes → Prop} {close : UInt8}
    (hP : ∀ a item, P a item → Balanced item) {as : List α} {text : Bytes}
    (h : Listed P close as text) : ∃ inner, text = inner ++ [close] ∧ Balanced inner := by
  induction h with
  | @last a item spaces ha hs =>
    exact ⟨item ++ spaces, by simp, (hP _ _ ha).append (balanced_spaces hs)⟩
  | @cons a item spaces as text ha hs _ ih =>
    obtain ⟨inner, rfl, hinner⟩ := ih
    have hcomma : Balanced (Ascii.comma :: inner) := .cons (by decide) hinner
    exact ⟨item ++ (spaces ++ Ascii.comma :: inner), by simp,
      (hP _ _ ha).append ((balanced_spaces hs).append hcomma)⟩

theorem exists_inner_of_enclosed {α : Type} {P : α → Bytes → Prop} {close : UInt8}
    (hP : ∀ a item, P a item → Balanced item) {as : List α} {text : Bytes}
    (h : Enclosed P close as text) : ∃ inner, text = inner ++ [close] ∧ Balanced inner := by
  cases h with
  | @empty spaces hs => exact ⟨spaces, rfl, balanced_spaces hs⟩
  | listed h => exact exists_inner_of_listed hP h

end RemoteSql.Payload
