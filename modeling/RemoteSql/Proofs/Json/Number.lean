import Mathlib
import RemoteSql.Proofs.Json.Sequence

/-!
# Numbers and words in JSON text

A number is read as far as its octets go. What it takes contains neither quotes nor brackets, and
what follows a delimiter has no part in it; so it reads alike before any delimiter.
-/

namespace RemoteSql.Json

variable {α β : Type}

/-- The octets that numbers are written with. -/
def isNumeral (b : UInt8) : Bool :=
  Ascii.isDigit b || b == Ascii.minus || b == Ascii.plus || b == Ascii.point ||
    b == 0x65 || b == 0x45

/-- A reader that takes numerals, up to a delimiter at the furthest. -/
structure TakesNumerals (f : Bytes → Option (α × Bytes)) : Prop where
  numerals : ∀ bs a rest, f bs = some (a, rest) →
    ∃ body, bs = body ++ rest ∧ ∀ b ∈ body, isNumeral b = true
  append : ∀ bs rest, Delimited rest →
    f (bs ++ rest) = (f bs).map fun r => (r.1, r.2 ++ rest)

namespace TakesNumerals

variable {f : Bytes → Option (α × Bytes)}

theorem map (hf : TakesNumerals f) (k : α → β) :
    TakesNumerals fun bs => (f bs).map fun r => (k r.1, r.2) where
  numerals bs b rest h := by
    obtain ⟨⟨a, rest'⟩, hr, heq⟩ := Option.map_eq_some_iff.mp h
    obtain ⟨rfl, rfl⟩ := Prod.mk.inj heq
    exact hf.numerals bs a rest' hr
  append bs rest hrest := by
    simp [hf.append bs rest hrest, Option.map_map, Function.comp_def]

theorem bind {g : α → Bytes → Option (β × Bytes)} (hf : TakesNumerals f)
    (hg : ∀ a, TakesNumerals (g a)) : TakesNumerals fun bs => (f bs).bind fun r => g r.1 r.2 where
  numerals bs b rest h := by
    obtain ⟨⟨a, mid⟩, hr, hg'⟩ := Option.bind_eq_some_iff.mp h
    obtain ⟨body, rfl, hbody⟩ := hf.numerals bs a mid hr
    obtain ⟨body', rfl, hbody'⟩ := (hg a).numerals mid b rest hg'
    refine ⟨body ++ body', by simp, ?_⟩
    intro c hc
    rcases List.mem_append.mp hc with hc | hc
    · exact hbody c hc
    · exact hbody' c hc
  append bs rest hrest := by
    rw [hf.append bs rest hrest]
    cases f bs with
    | none => rfl
    | some r => exact (hg r.1).append r.2 rest hrest

/-- What takes a number before a delimiter takes it before every other. -/
theorem exists_body (hf : TakesNumerals f) {bs : Bytes} {a : α} {rest : Bytes}
    (h : f bs = some (a, rest)) (hrest : Delimited rest) :
    ∃ body, bs = body ++ rest ∧ (∀ b ∈ body, isNumeral b = true) ∧
      ∀ rest', Delimited rest' → f (body ++ rest') = some (a, rest') := by
  obtain ⟨body, rfl, hbody⟩ := hf.numerals bs a rest h
  refine ⟨body, rfl, hbody, ?_⟩
  intro rest' hrest'
  rw [hf.append body rest hrest] at h
  obtain ⟨⟨a', left⟩, hr, heq⟩ := Option.map_eq_some_iff.mp h
  obtain ⟨rfl, hleft⟩ := Prod.mk.inj heq
  have hnil : left = [] := List.append_left_eq_self.mp hleft
  rw [hf.append body rest' hrest', hr, hnil]
  rfl

end TakesNumerals

theorem endsScalar_of_isNumeral {b : UInt8} (h : isNumeral b = true) :
    Payload.endsScalar b = false := by
  revert b
  decide +kernel

theorem Delimited.not_numeral {bs : Bytes} (h : Delimited bs) :
    ∀ b ∈ bs.head?, isNumeral b = false := by
  intro b hb
  cases hn : isNumeral b with
  | false => rfl
  | true =>
    have hends := endsScalar_of_delimited (h b hb)
    rw [endsScalar_of_isNumeral hn] at hends
    cases hends

theorem isNumeral_of_isDigit {b : UInt8} (h : Ascii.isDigit b = true) : isNumeral b = true := by
  simp [isNumeral, h]

theorem digits_append (bs : Bytes) {rest : Bytes} (hrest : Delimited rest) :
    digits (bs ++ rest) = ((digits bs).1, (digits bs).2 ++ rest) := by
  induction bs with
  | nil =>
    cases rest with
    | nil => rfl
    | cons b rest =>
      have hb : Ascii.isDigit b = false := by
        have hnot := hrest.not_numeral b rfl
        simp only [isNumeral, Bool.or_eq_false_iff] at hnot
        exact hnot.1.1.1.1.1
      simp [digits, hb]
  | cons b bs ih =>
    simp only [digits, Prod.mk.injEq] at ih ⊢
    cases hb : Ascii.isDigit b <;> simp [hb, ih]

theorem exists_digits (bs : Bytes) :
    ∃ body, bs = body ++ (digits bs).2 ∧ ∀ b ∈ body, isNumeral b = true :=
  ⟨bs.takeWhile Ascii.isDigit, List.takeWhile_append_dropWhile.symm, fun _ hb =>
    isNumeral_of_isDigit (List.mem_takeWhile_imp hb)⟩

def someDigits (bs : Bytes) : Option (List Char × Bytes) :=
  match digits bs with
  | ([], _) => none
  | (ds, rest) => some (ds, rest)

theorem takesNumerals_someDigits : TakesNumerals someDigits where
  numerals bs ds rest h := by
    obtain ⟨body, hbs, hbody⟩ := exists_digits bs
    unfold someDigits at h
    split at h
    · cases h
    · next hdigits =>
      cases h
      rw [hdigits] at hbs
      exact ⟨body, hbs, hbody⟩
  append bs rest hrest := by
    unfold someDigits
    rw [digits_append bs hrest]
    rcases digits bs with ⟨_ | _, _⟩ <;> rfl

/-- Reads what follows the first octet if that is of a kind, and from the first octet if not. -/
def onHead (p : UInt8 → Prop) [DecidablePred p] (f g : Bytes → Option (α × Bytes)) :
    Bytes → Option (α × Bytes)
  | [] => g []
  | b :: rest => if p b then f rest else g (b :: rest)

namespace TakesNumerals

theorem pure (a : α) : TakesNumerals fun bs => some (a, bs) where
  numerals bs a' rest h := by
    cases h
    exact ⟨[], rfl, by simp⟩
  append _ _ _ := rfl

theorem onHead {p : UInt8 → Prop} [DecidablePred p] {f g : Bytes → Option (α × Bytes)}
    (hp : ∀ b, p b → isNumeral b = true) (hf : TakesNumerals f) (hg : TakesNumerals g) :
    TakesNumerals (onHead p f g) where
  numerals bs a rest h := by
    cases bs with
    | nil => exact hg.numerals [] a rest h
    | cons b bs =>
      rw [Json.onHead] at h
      split at h
      · next hb =>
        obtain ⟨body, rfl, hbody⟩ := hf.numerals bs a rest h
        exact ⟨b :: body, rfl, List.forall_mem_cons.mpr ⟨hp b hb, hbody⟩⟩
      · exact hg.numerals (b :: bs) a rest h
  append bs rest hrest := by
    cases bs with
    | nil =>
      cases rest with
      | nil => exact hg.append [] [] hrest
      | cons b rest =>
        have hb : ¬p b := by
          intro hb
          have hnot := hrest.not_numeral b rfl
          rw [hp b hb] at hnot
          cases hnot
        simp only [List.nil_append, Json.onHead, if_neg hb]
        exact hg.append [] (b :: rest) hrest
    | cons b bs =>
      rw [List.cons_append, Json.onHead, Json.onHead]
      by_cases hb : p b
      · rw [if_pos hb, if_pos hb]
        exact hf.append bs rest hrest
      · rw [if_neg hb, if_neg hb]
        exact hg.append (b :: bs) rest hrest

end TakesNumerals

/-! ## The parts of a number -/

theorem wholePart_eq :
    wholePart = onHead (· = Ascii.zero) (fun rest => some (['0'], rest)) someDigits := by
  funext bs
  cases bs with
  | nil => rfl
  | cons b rest =>
    by_cases hb : b = Ascii.zero
    · subst hb
      rfl
    · rw [onHead, if_neg hb]
      unfold wholePart someDigits
      split
      · next heq => exact absurd (List.cons.inj heq).1 hb
      · rfl

theorem fractionPart_eq :
    fractionPart = onHead (· = Ascii.point)
      (fun bs => (someDigits bs).map fun r => ('.' :: r.1, r.2)) fun bs => some ([], bs) := by
  funext bs
  cases bs with
  | nil => rfl
  | cons b rest =>
    by_cases hb : b = Ascii.point
    · subst hb
      simp only [onHead, if_true, someDigits]
      change (match digits rest with
        | ([], _) => none
        | (ds, rest) => some ('.' :: ds, rest)) = _
      rcases digits rest with ⟨_ | _, _⟩ <;> rfl
    · rw [onHead, if_neg hb]
      unfold fractionPart
      split
      · next heq => exact absurd (List.cons.inj heq).1 hb
      · rfl

def exponentDigits (sign : Char) (bs : Bytes) : Option (List Char × Bytes) :=
  (someDigits bs).map fun r => ('e' :: sign :: r.1, r.2)

theorem exponentPart_eq :
    exponentPart = onHead (fun b => b = 0x65 ∨ b = 0x45)
      (onHead (· = Ascii.minus) (exponentDigits '-')
        (onHead (· = Ascii.plus) (exponentDigits '+') (exponentDigits '+')))
      fun bs => some ([], bs) := by
  have hdigits : ∀ (sign : Char) (bs : Bytes),
      (match digits bs with
        | ([], _) => none
        | (ds, rest) => some ('e' :: sign :: ds, rest)) = exponentDigits sign bs := by
    intro sign bs
    unfold exponentDigits someDigits
    rcases digits bs with ⟨_ | _, _⟩ <;> rfl
  funext bs
  cases bs with
  | nil => rfl
  | cons e rest =>
    by_cases he : e = 0x65 ∨ e = 0x45
    · rw [onHead, if_pos he]
      cases rest with
      | nil =>
        rw [exponentPart, if_pos he]
        · rfl
        all_goals
          intro rest heq
          cases heq
      | cons b rest =>
        rw [onHead]
        by_cases hminus : b = Ascii.minus
        · subst hminus
          rw [exponentPart.eq_def]
          exact (if_pos he).trans (hdigits '-' rest)
        · rw [if_neg hminus, onHead]
          by_cases hplus : b = Ascii.plus
          · subst hplus
            rw [exponentPart.eq_def]
            exact (if_pos he).trans (hdigits '+' rest)
          · rw [if_neg hplus, exponentPart, if_pos he]
            · exact hdigits '+' (b :: rest)
            · exact fun rest' heq => hminus (List.cons.inj heq).1
            · exact fun rest' heq => hplus (List.cons.inj heq).1
    · simp only [exponentPart, onHead, if_neg he]

theorem numberLiteral_eq :
    numberLiteral = onHead (· = Ascii.minus)
      (fun bs => (magnitude bs).map fun r => (String.ofList ('-' :: r.1), r.2))
      fun bs => (magnitude bs).map fun r => (String.ofList r.1, r.2) := by
  funext bs
  cases bs with
  | nil => rfl
  | cons b rest =>
    by_cases hb : b = Ascii.minus
    · subst hb
      rfl
    · rw [onHead, if_neg hb]
      unfold numberLiteral
      split
      · next heq => exact absurd (List.cons.inj heq).1 hb
      · rfl

theorem takesNumerals_wholePart : TakesNumerals wholePart := by
  rw [wholePart_eq]
  exact .onHead (by decide +kernel) (.pure _) takesNumerals_someDigits

theorem takesNumerals_fractionPart : TakesNumerals fractionPart := by
  rw [fractionPart_eq]
  exact .onHead (by decide +kernel) (takesNumerals_someDigits.map ('.' :: ·)) (.pure _)

theorem takesNumerals_exponentPart : TakesNumerals exponentPart := by
  have hdigits : ∀ sign, TakesNumerals (exponentDigits sign) := fun sign =>
    takesNumerals_someDigits.map ('e' :: sign :: ·)
  rw [exponentPart_eq]
  refine .onHead (by decide +kernel) ?_ (.pure _)
  refine .onHead (by decide +kernel) (hdigits _) ?_
  exact .onHead (by decide +kernel) (hdigits _) (hdigits _)

theorem takesNumerals_magnitude : TakesNumerals magnitude :=
  takesNumerals_wholePart.bind fun whole => takesNumerals_fractionPart.bind fun fraction =>
    takesNumerals_exponentPart.bind fun exponent => .pure (whole ++ fraction ++ exponent)

theorem takesNumerals_numberLiteral : TakesNumerals numberLiteral := by
  rw [numberLiteral_eq]
  exact .onHead (by decide +kernel)
    (takesNumerals_magnitude.map fun cs => String.ofList ('-' :: cs))
    (takesNumerals_magnitude.map String.ofList)

/-! ## Words -/

theorem afterWord_eq_some_iff {word bs rest : Bytes} :
    afterWord word bs = some rest ↔ bs = word ++ rest := by
  induction word generalizing bs with
  | nil => simp [afterWord]
  | cons w word ih =>
    cases bs with
    | nil => simp [afterWord]
    | cons b bs =>
      by_cases hb : w = b
      · simp [afterWord, hb, ih]
      · simp [afterWord, hb, Ne.symm hb]

end RemoteSql.Json
