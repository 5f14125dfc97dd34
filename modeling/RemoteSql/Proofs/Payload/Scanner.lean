import Mathlib
import RemoteSql.Payload.Scanner

/-!
# What the scanner steps over

Each step of the scanner takes a stretch of octets that can be told without running it: blanks, a
string up to the quote that closes it, brackets up to the one that closes the first, or octets up
to one that ends a scalar. A step takes exactly such a stretch or fails, whatever follows.
-/

namespace RemoteSql.Payload

/-- Adds octets to the store in the order in which they were read. -/
def Store.keepAll (out : Store) (bs : Bytes) : Store := out.map (bs.reverse ++ ·)

namespace Store

@[simp] theorem keepAll_nil (out : Store) : out.keepAll [] = out := by
  cases out <;> rfl

theorem keepAll_cons (out : Store) (b : UInt8) (bs : Bytes) :
    out.keepAll (b :: bs) = (out.keep b).keepAll bs := by
  cases out <;> simp [keepAll, keep]

theorem getD_keepAll (bs : Bytes) : (keepAll (some []) bs).getD [] = bs.reverse := by
  simp [keepAll]

end Store

/-- All octets are those of a kind and then one that is not, if any are left. -/
theorem exists_stretch (p : UInt8 → Bool) (bs : Bytes) :
    ∃ body rest, bs = body ++ rest ∧ (∀ b ∈ body, p b = true) ∧
      ∀ b ∈ rest.head?, p b = false := by
  refine ⟨bs.takeWhile p, bs.dropWhile p, List.takeWhile_append_dropWhile.symm, ?_, ?_⟩
  · intro b hb
    exact List.mem_takeWhile_imp hb
  · intro b hb
    have hnot := List.head?_dropWhile_not p bs
    rw [Option.mem_def.mp hb] at hnot
    simpa using hnot

/-! ## Blanks -/

def Blanks (bs : Bytes) : Prop := ∀ b ∈ bs, Ascii.isBlank b = true

/-- Octets that do not begin with a blank. -/
def Bare (bs : Bytes) : Prop := ∀ b ∈ bs.head?, Ascii.isBlank b = false

@[simp] theorem bare_cons (b : UInt8) (bs : Bytes) :
    Bare (b :: bs) ↔ Ascii.isBlank b = false := by
  simp [Bare]

theorem Bare.of_head? {bs bs' : Bytes} (h : Bare bs) (hhead : bs'.head? = bs.head?) :
    Bare bs' := by
  rw [Bare, hhead]
  exact h

theorem skipBlank_of_bare {bs : Bytes} (h : Bare bs) (o : Nat) : skipBlank o bs = ⟨o, bs⟩ := by
  cases bs with
  | nil => rfl
  | cons b bs => simp [skipBlank, (bare_cons b bs).mp h]

theorem skipBlank_append {blanks rest : Bytes} (hb : Blanks blanks) (hr : Bare rest) (o : Nat) :
    skipBlank o (blanks ++ rest) = ⟨o + blanks.length, rest⟩ := by
  induction blanks generalizing o with
  | nil => simp [skipBlank_of_bare hr]
  | cons b blanks ih =>
    have hhead : Ascii.isBlank b = true := hb b (by simp)
    have htail : Blanks blanks := fun b' hb' => hb b' (List.mem_cons_of_mem b hb')
    rw [List.cons_append, skipBlank, if_pos hhead, ih htail, List.length_cons]
    congr 1
    omega

theorem exists_blanks (bs : Bytes) :
    ∃ blanks rest, bs = blanks ++ rest ∧ Blanks blanks ∧ Bare rest :=
  exists_stretch Ascii.isBlank bs

theorem skipBlank_skipBlank (s : Rest) : s.skipBlank.skipBlank = s.skipBlank := by
  obtain ⟨o, bs⟩ := s
  obtain ⟨blanks, rest, rfl, hb, hr⟩ := exists_blanks bs
  rw [Rest.skipBlank, Rest.skipBlank, skipBlank_append hb hr, skipBlank_of_bare hr]

theorem expect_append {blanks : Bytes} (hb : Blanks blanks) {b : UInt8}
    (hbare : Ascii.isBlank b = false) (o : Nat) (rest : Bytes) (fault : PayloadFault) :
    Rest.expect ⟨o, blanks ++ b :: rest⟩ b fault = .ok ⟨o + blanks.length + 1, rest⟩ := by
  have hskip : Rest.skipBlank ⟨o, blanks ++ b :: rest⟩ = ⟨o + blanks.length, b :: rest⟩ :=
    skipBlank_append hb ((bare_cons b rest).mpr hbare) o
  simp [Rest.expect, hskip]

theorem exists_blanks_of_expect {s s' : Rest} {b : UInt8} {fault : PayloadFault}
    (h : s.expect b fault = .ok s') :
    ∃ blanks, s.octets = blanks ++ b :: s'.octets ∧ Blanks blanks ∧ Ascii.isBlank b = false := by
  obtain ⟨o, bs⟩ := s
  obtain ⟨blanks, tail, rfl, hb, hbare⟩ := exists_blanks bs
  have hskip : Rest.skipBlank ⟨o, blanks ++ tail⟩ = ⟨o + blanks.length, tail⟩ :=
    skipBlank_append hb hbare o
  rw [Rest.expect, hskip] at h
  cases tail with
  | nil => simp at h
  | cons c tail =>
    simp only at h
    split at h
    · next hc =>
      simp only [Except.ok.injEq] at h
      subst hc
      exact ⟨blanks, by simp [← h], hb, (bare_cons c tail).mp hbare⟩
    · simp at h

/-! ## Strings -/

/-- The octets of a string after its opening quote: only the last is a quote that closes it. -/
def Quoted : Bool → Bytes → Prop
  | _, [] => False
  | true, _ :: rest => Quoted false rest
  | false, b :: rest =>
    if b = Ascii.backslash then Quoted true rest
    else if b = Ascii.quote then rest = []
    else Quoted false rest

theorem copyText_append {escaped : Bool} {body : Bytes} (h : Quoted escaped body) (o : Nat)
    (out : Store) (rest : Bytes) :
    copyText escaped o out (body ++ rest) =
      .ok (out.keepAll body, ⟨o + body.length, rest⟩) := by
  induction body generalizing escaped o out with
  | nil => simp [Quoted] at h
  | cons b body ih =>
    have hlen : o + 1 + body.length = o + (b :: body).length := by
      rw [List.length_cons]
      omega
    rw [List.cons_append, copyText, Store.keepAll_cons, ← hlen]
    cases escaped with
    | true => simpa using ih h (o + 1) (out.keep b)
    | false =>
      simp only [Quoted] at h
      split at h
      · next hb => simpa [hb] using ih h (o + 1) (out.keep b)
      · split at h
        · next hne hb =>
          subst hb
          simp [h, hne]
        · next hne hb => simpa [hne, hb] using ih h (o + 1) (out.keep b)

theorem exists_quoted_of_copyText {escaped : Bool} {o : Nat} {out : Store} {bs : Bytes}
    {r : Store × Rest} (h : copyText escaped o out bs = .ok r) :
    ∃ body, bs = body ++ r.2.octets ∧ Quoted escaped body := by
  induction bs generalizing escaped o out with
  | nil => simp [copyText] at h
  | cons b bs ih =>
    rw [copyText] at h
    cases escaped with
    | true =>
      obtain ⟨body, rfl, hq⟩ := ih (by simpa using h)
      exact ⟨b :: body, rfl, hq⟩
    | false =>
      simp only [Bool.false_eq_true, if_false] at h
      split at h
      · next hb =>
        obtain ⟨body, rfl, hq⟩ := ih h
        exact ⟨b :: body, rfl, by simpa [Quoted, hb] using hq⟩
      · split at h
        · next hne hb =>
          subst hb
          simp only [Except.ok.injEq] at h
          exact ⟨[Ascii.quote], by simp [← h], by simp [Quoted, hne]⟩
        · next hne hb =>
          obtain ⟨body, rfl, hq⟩ := ih h
          exact ⟨b :: body, rfl, by simpa [Quoted, hne, hb] using hq⟩

/-! ## Brackets -/

/-- Octets of which only the last closes the bracket that was opened first. -/
def Nesting.Ends (n : Nesting) : Bytes → Prop
  | [] => False
  | b :: rest =>
    match n.step b with
    | none => rest = []
    | some n => n.Ends rest

theorem copyBrackets_append {n : Nesting} {body : Bytes} (h : n.Ends body) (o : Nat)
    (out : Store) (rest : Bytes) :
    copyBrackets n o out (body ++ rest) = .ok (out.keepAll body, ⟨o + body.length, rest⟩) := by
  induction body generalizing n o out with
  | nil => simp [Nesting.Ends] at h
  | cons b body ih =>
    have hlen : o + 1 + body.length = o + (b :: body).length := by
      rw [List.length_cons]
      omega
    rw [List.cons_append, copyBrackets, Store.keepAll_cons, ← hlen]
    cases hs : n.step b with
    | none =>
      have hbody : body = [] := by simpa [Nesting.Ends, hs] using h
      simp [hbody]
    | some m => exact ih (by simpa [Nesting.Ends, hs] using h) (o + 1) (out.keep b)

theorem exists_ends_of_copyBrackets {n : Nesting} {o : Nat} {out : Store} {bs : Bytes}
    {r : Store × Rest} (h : copyBrackets n o out bs = .ok r) :
    ∃ body, bs = body ++ r.2.octets ∧ n.Ends body := by
  induction bs generalizing n o out with
  | nil => simp [copyBrackets] at h
  | cons b bs ih =>
    rw [copyBrackets] at h
    cases hs : n.step b with
    | none =>
      simp only [hs, Except.ok.injEq] at h
      exact ⟨[b], by simp [← h], by simp [Nesting.Ends, hs]⟩
    | some m =>
      simp only [hs] at h
      obtain ⟨body, rfl, he⟩ := ih h
      exact ⟨b :: body, rfl, by simpa [Nesting.Ends, hs] using he⟩

/-! ## Scalars -/

/-- Octets before which a number or a word ends. -/
def Fenced (bs : Bytes) : Prop := ∀ b ∈ bs.head?, endsScalar b = true

@[simp] theorem fenced_cons (b : UInt8) (bs : Bytes) :
    Fenced (b :: bs) ↔ endsScalar b = true := by
  simp [Fenced]

theorem copyScalar_append {body rest : Bytes} (h : ∀ b ∈ body, endsScalar b = false)
    (hr : Fenced rest) (o : Nat) (out : Store) :
    copyScalar o out (body ++ rest) = (out.keepAll body, ⟨o + body.length, rest⟩) := by
  induction body generalizing o out with
  | nil =>
    cases rest with
    | nil => simp [copyScalar]
    | cons b rest => simp [copyScalar, (fenced_cons b rest).mp hr]
  | cons b body ih =>
    have hhead : endsScalar b = false := h b (by simp)
    have htail : ∀ b' ∈ body, endsScalar b' = false := fun b' hb' =>
      h b' (List.mem_cons_of_mem b hb')
    rw [List.cons_append, copyScalar, if_neg (by simp [hhead]), ih htail, Store.keepAll_cons,
      List.length_cons]
    congr 2
    omega

theorem exists_scalar (bs : Bytes) :
    ∃ body rest, bs = body ++ rest ∧ (∀ b ∈ body, endsScalar b = false) ∧ Fenced rest := by
  obtain ⟨body, rest, hbs, hbody, hrest⟩ := exists_stretch (!endsScalar ·) bs
  exact ⟨body, rest, hbs, by simpa using hbody, by simpa [Fenced] using hrest⟩

end RemoteSql.Payload
