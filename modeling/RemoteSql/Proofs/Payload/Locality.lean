import Mathlib
import RemoteSql.Payload.Layout
import RemoteSql.Proofs.Fallible
import RemoteSql.Proofs.Payload.Token

/-!
# Readers take a stretch that does not depend on what follows

A reader that succeeds has taken a stretch of octets from the head, and it takes the same stretch
with the same result before any other octets that begin alike. A reader that shows its own end
takes it whatever follows; the scanner of a whole payload is of this kind.
-/

namespace RemoteSql.Payload

variable {α β σ : Type}

/-- Octets that begin with the same octet, or both not at all. -/
def SameHead (bs bs' : Bytes) : Prop := bs'.head? = bs.head?

/-- A reader takes a stretch of octets, and takes it as well before any octets that `like` relates
to those that did follow. -/
def Local (like : Bytes → Bytes → Prop) (f : Rest → Except Error (α × Rest)) : Prop :=
  ∀ o bs a s, f ⟨o, bs⟩ = .ok (a, s) →
    ∃ body, body ≠ [] ∧ bs = body ++ s.octets ∧
      ∀ rest, like s.octets rest → f ⟨o, body ++ rest⟩ = .ok (a, ⟨o + body.length, rest⟩)

/-- A reader that shows its own end. -/
abbrev Closed (f : Rest → Except Error (α × Rest)) : Prop := Local (fun _ _ => True) f

theorem SameHead.refl (bs : Bytes) : SameHead bs bs := rfl

theorem sameHead_append {body : Bytes} (h : body ≠ []) (rest rest' : Bytes) :
    SameHead (body ++ rest) (body ++ rest') := by
  cases body with
  | nil => exact absurd rfl h
  | cons b body => rfl

namespace Local

variable {like : Bytes → Bytes → Prop} {f : Rest → Except Error (α × Rest)}

theorem of_closed (hf : Closed f) : Local like f := by
  intro o bs a s h
  obtain ⟨body, hne, hbs, hrest⟩ := hf o bs a s h
  exact ⟨body, hne, hbs, fun rest _ => hrest rest trivial⟩

theorem bind {g : α → Rest → Except Error (β × Rest)} (hf : Local SameHead f)
    (hg : ∀ a, Local like (g a)) : Local like fun s => f s >>= fun r => g r.1 r.2 := by
  intro o bs b s h
  obtain ⟨⟨a, o₁, bs₁⟩, hread, hnext⟩ := exists_of_bind_eq_ok h
  obtain ⟨body₁, hne₁, rfl, hrest₁⟩ := hf o bs a ⟨o₁, bs₁⟩ hread
  -- The first reader has stopped where its stretch ends, so the second one begins there.
  have hagain := hrest₁ bs₁ (SameHead.refl _)
  obtain rfl : o₁ = o + body₁.length := by
    rw [hagain] at hread
    cases hread
    rfl
  obtain ⟨body₂, hne₂, rfl, hrest₂⟩ := hg a _ bs₁ b s hnext
  refine ⟨body₁ ++ body₂, by simp [hne₁], by simp, ?_⟩
  intro rest hlike
  have hstep := hrest₁ (body₂ ++ rest) (sameHead_append hne₂ s.octets rest)
  dsimp only
  rw [List.append_assoc, hstep, List.length_append, ← Nat.add_assoc]
  exact hrest₂ rest hlike

theorem check {x : Except Error β} {g : β → Rest → Except Error (α × Rest)}
    (hg : ∀ b, Local like (g b)) : Local like fun s => x >>= fun b => g b s := by
  intro o bs a s h
  obtain ⟨b, rfl, h⟩ := exists_of_bind_eq_ok h
  exact hg b o bs a s h

theorem map {γ : Type} (hf : Local like f) (k : Nat → α → γ) :
    Local like fun s => (f s).map fun r => (k s.offset r.1, r.2) := by
  intro o bs c s h
  obtain ⟨⟨a, s₁⟩, hread, heq⟩ := exists_of_map_eq_ok h
  obtain ⟨rfl, rfl⟩ := Prod.mk.inj heq
  obtain ⟨body, hne, hbs, hrest⟩ := hf o bs a s₁ hread
  refine ⟨body, hne, hbs, ?_⟩
  intro rest hlike
  simp [hrest rest hlike, Except.map]

theorem judge {γ : Type} (hf : Local like f) (k : α → Except Error β) (g : β → γ) :
    Local like fun s => do
      let (a, s) ← f s
      let b ← k a
      return (g b, s) := by
  intro o bs c s h
  obtain ⟨⟨a, s₁⟩, hread, h⟩ := exists_of_bind_eq_ok h
  obtain ⟨b, hb, h⟩ := exists_of_bind_eq_ok h
  obtain ⟨rfl, rfl⟩ := Prod.mk.inj (Except.ok.inj h)
  obtain ⟨body, hne, hbs, hrest⟩ := hf o bs a s₁ hread
  refine ⟨body, hne, hbs, ?_⟩
  intro rest hlike
  simp only [hrest rest hlike, Bind.bind, Except.bind, hb]
  rfl

/-- Of a reader that begins by stepping over blanks only what it does past them matters. -/
theorem of_bare (hskip : ∀ s : Rest, f s.skipBlank = f s)
    (hf : ∀ o bs a s, Bare bs → f ⟨o, bs⟩ = .ok (a, s) →
      ∃ body, body ≠ [] ∧ bs = body ++ s.octets ∧
        ∀ rest, like s.octets rest → f ⟨o, body ++ rest⟩ = .ok (a, ⟨o + body.length, rest⟩)) :
    Local like f := by
  intro o bs a s h
  obtain ⟨blanks, tail, rfl, hb, hbare⟩ := exists_blanks bs
  have hpast : ∀ {tail}, Bare tail →
      f ⟨o, blanks ++ tail⟩ = f ⟨o + blanks.length, tail⟩ := fun h => by
    rw [← hskip, Rest.skipBlank, skipBlank_append hb h]
  rw [hpast hbare] at h
  obtain ⟨body, hne, rfl, hrest⟩ := hf _ _ a s hbare h
  refine ⟨blanks ++ body, by simp [hne], by simp, ?_⟩
  intro rest hlike
  have hbare' : Bare (body ++ rest) := hbare.of_head? (sameHead_append hne s.octets rest)
  rw [List.append_assoc, hpast hbare', List.length_append, ← Nat.add_assoc]
  exact hrest rest hlike

theorem skipBlank (hf : Local like f) : Local like fun s => f s.skipBlank := by
  apply of_bare (fun s => by rw [skipBlank_skipBlank])
  intro o bs a s hbare h
  rw [Rest.skipBlank, skipBlank_of_bare hbare] at h
  obtain ⟨body, hne, rfl, hrest⟩ := hf o bs a s h
  refine ⟨body, hne, rfl, ?_⟩
  intro rest hlike
  have hbare' : Bare (body ++ rest) := hbare.of_head? (sameHead_append hne s.octets rest)
  rw [Rest.skipBlank, skipBlank_of_bare hbare']
  exact hrest rest hlike

end Local

/-! ## Steps of the scanner -/

theorem local_copyValue (out : Store) : Local SameHead (copyValue · out) := by
  intro o bs a s h
  obtain ⟨blanks, body, hbs, hb, ht⟩ := exists_token_of_copyValue h
  simp only at hbs ht
  have ha : a = out.keepAll body := by
    rw [hbs] at h
    exact congrArg Prod.fst (Except.ok.inj (h.symm.trans (copyValue_append hb ht o out)))
  refine ⟨blanks ++ body, by simp [ht.ne_nil], by simp [hbs], ?_⟩
  intro rest hlike
  rw [List.append_assoc, ha, List.length_append, ← Nat.add_assoc]
  exact copyValue_append hb (ht.of_head? hlike) o out

theorem closed_copyString (out : Store) : Closed (copyString · out) := by
  intro o bs a s h
  cases bs with
  | nil => simp [copyString] at h
  | cons b bs =>
    obtain ⟨body, rfl, hq⟩ := exists_quoted_of_copyText h
    have hcopy : ∀ rest, copyString ⟨o, b :: body ++ rest⟩ out =
        .ok ((out.keep b).keepAll body, ⟨o + (b :: body).length, rest⟩) := fun rest => by
      have hlen : o + (b :: body).length = o + 1 + body.length := by
        rw [List.length_cons]
        omega
      rw [hlen]
      exact copyText_append hq (o + 1) (out.keep b) rest
    have ha : a = (out.keep b).keepAll body :=
      congrArg Prod.fst (Except.ok.inj (h.symm.trans (hcopy s.octets)))
    exact ⟨b :: body, by simp, rfl, fun rest _ => ha ▸ hcopy rest⟩

theorem closed_expect (b : UInt8) (fault : PayloadFault) (a : α) :
    Closed fun s => do
      let s ← s.expect b fault
      return (a, s) := by
  intro o bs a' s h
  cases hr : Rest.expect ⟨o, bs⟩ b fault with
  | error e =>
    simp only [hr] at h
    cases h
  | ok s₁ =>
    simp only [hr] at h
    cases h
    obtain ⟨blanks, hbs, hb, hbare⟩ := exists_blanks_of_expect hr
    refine ⟨blanks ++ [b], by simp, by simpa using hbs, ?_⟩
    intro rest _
    have hexpect := expect_append hb hbare o rest fault
    simp only [List.append_assoc, List.singleton_append, hexpect, List.length_append,
      List.length_singleton, ← Nat.add_assoc]
    rfl

/-! ## Lists of items -/

section Items

variable {item : Rest → σ → Except Error (σ × Rest)} {close : UInt8} {fault : PayloadFault}

theorem separated_of_item {s : Rest} {found found₁ : σ} {o : Nat} {blanks tail : Bytes} {b : UInt8}
    (h : item s found = .ok (found₁, ⟨o, blanks ++ b :: tail⟩)) (hb : Blanks blanks)
    (hbare : Ascii.isBlank b = false) (fuel : Nat) :
    separated item close fault (fuel + 1) s found =
      if b = Ascii.comma then separated item close fault fuel ⟨o + blanks.length + 1, tail⟩ found₁
      else if b = close then .ok (found₁, ⟨o + blanks.length + 1, tail⟩)
      else .error (malformed (o + blanks.length) fault) := by
  have hskip : Rest.skipBlank ⟨o, blanks ++ b :: tail⟩ = ⟨o + blanks.length, b :: tail⟩ :=
    skipBlank_append hb ((bare_cons b tail).mpr hbare) o
  rw [separated, h]
  simp only [bind, Except.bind, hskip]
  rfl

theorem exists_item_of_separated {fuel : Nat} {s : Rest} {found : σ} {r : σ × Rest}
    (h : separated item close fault fuel s found = .ok r) :
    ∃ k found₁ o blanks b tail, fuel = k + 1 ∧
      item s found = .ok (found₁, ⟨o, blanks ++ b :: tail⟩) ∧ Blanks blanks ∧
      Ascii.isBlank b = false ∧ (b = Ascii.comma ∨ b = close) := by
  cases fuel with
  | zero => simp [separated] at h
  | succ fuel =>
    obtain ⟨⟨found₁, ⟨o, bs⟩⟩, hr, hnext⟩ := exists_of_bind_eq_ok h
    obtain ⟨blanks, tail, rfl, hb, hbare⟩ := exists_blanks bs
    cases tail with
    | nil =>
      have hskip : Rest.skipBlank ⟨o, blanks ++ []⟩ = ⟨o + blanks.length, []⟩ :=
        skipBlank_append hb hbare o
      simp only [hskip] at hnext
      cases hnext
    | cons b tail =>
      have hb' := (bare_cons b tail).mp hbare
      rw [separated_of_item hr hb hb'] at h
      refine ⟨fuel, found₁, o, blanks, b, tail, rfl, hr, hb, hb', ?_⟩
      split at h
      · next hcomma => exact Or.inl hcomma
      · split at h
        · next hclose => exact Or.inr hclose
        · cases h

/-- Items up to the closing octet are read alike whatever follows it, and as well with any other
bound that is long enough. -/
theorem separated_local (hitem : ∀ found, Local SameHead (item · found)) {fuel o : Nat} {bs : Bytes}
    {found found' : σ} {s : Rest}
    (h : separated item close fault fuel ⟨o, bs⟩ found = .ok (found', s)) :
    ∃ body, bs = body ++ close :: s.octets ∧ ∀ rest fuel', body.length < fuel' →
      separated item close fault fuel' ⟨o, body ++ close :: rest⟩ found =
        .ok (found', ⟨o + body.length + 1, rest⟩) := by
  induction fuel generalizing o bs found with
  | zero => simp [separated] at h
  | succ fuel ih =>
    obtain ⟨k, found₁, o₁, blanks, b, tail, hk, hr, hb, hbare, hsep⟩ := exists_item_of_separated h
    obtain rfl : fuel = k := by omega
    obtain ⟨body₁, hne₁, rfl, hrest₁⟩ := hitem found o bs found₁ _ hr
    have hagain : ∀ tail', item ⟨o, body₁ ++ (blanks ++ b :: tail')⟩ found =
        .ok (found₁, ⟨o + body₁.length, blanks ++ b :: tail'⟩) := fun tail' => by
      apply hrest₁
      rw [SameHead]
      cases blanks <;> rfl
    rw [separated_of_item (hagain tail) hb hbare] at h
    -- A comma leads on to the remaining items, the closing octet to the end.
    by_cases hcomma : b = Ascii.comma
    · rw [if_pos hcomma] at h
      obtain ⟨body₂, rfl, hrest₂⟩ := ih h
      refine ⟨body₁ ++ (blanks ++ b :: body₂), by simp, ?_⟩
      intro rest fuel' hfuel
      simp only [List.length_append, List.length_cons] at hfuel
      obtain ⟨m, rfl⟩ : ∃ m, fuel' = m + 1 := ⟨fuel' - 1, by omega⟩
      have hm : body₂.length < m := by omega
      rw [List.append_assoc, List.append_assoc, List.cons_append,
        separated_of_item (hagain _) hb hbare, if_pos hcomma, hrest₂ rest m hm]
      simp only [List.length_append, List.length_cons, Except.ok.injEq, Prod.mk.injEq,
        Rest.mk.injEq, true_and, and_true]
      omega
    · obtain rfl : b = close := hsep.resolve_left hcomma
      rw [if_neg hcomma, if_pos rfl, Except.ok.injEq, Prod.mk.injEq] at h
      obtain ⟨rfl, rfl⟩ := h
      refine ⟨body₁ ++ blanks, by simp, ?_⟩
      intro rest fuel' hfuel
      obtain ⟨m, rfl⟩ : ∃ m, fuel' = m + 1 := ⟨fuel' - 1, by omega⟩
      rw [List.append_assoc, separated_of_item (hagain _) hb hbare, if_neg hcomma, if_pos rfl,
        List.length_append, ← Nat.add_assoc]

theorem listed_local (hitem : ∀ found, Local SameHead (item · found))
    (hclose : Ascii.isBlank close = false) {o : Nat} {bs : Bytes} {found found' : σ} {s : Rest}
    (h : listed item close fault ⟨o, bs⟩ found = .ok (found', s)) :
    ∃ body, bs = body ++ close :: s.octets ∧ ∀ rest,
      listed item close fault ⟨o, body ++ close :: rest⟩ found =
        .ok (found', ⟨o + body.length + 1, rest⟩) := by
  obtain ⟨blanks, tail, rfl, hb, hbare⟩ := exists_blanks bs
  have hskip : ∀ {tail}, Bare tail →
      Rest.skipBlank ⟨o, blanks ++ tail⟩ = ⟨o + blanks.length, tail⟩ :=
    fun h => skipBlank_append hb h o
  simp only [listed, hskip hbare] at h
  split at h
  · next hhead =>
    obtain ⟨tail, rfl⟩ : ∃ rest, tail = close :: rest := by
      cases tail with
      | nil => simp at hhead
      | cons b tail => exact ⟨tail, by simpa using hhead⟩
    cases h
    refine ⟨blanks, by simp, ?_⟩
    intro rest
    have hbare' : Bare (close :: rest) := (bare_cons close rest).mpr hclose
    simp [listed, hskip hbare']
  · next hhead =>
    obtain ⟨body, rfl, hrest⟩ := separated_local hitem h
    refine ⟨blanks ++ body, by simp, ?_⟩
    intro rest
    have hlike : (body ++ close :: rest).head? = (body ++ close :: s.octets).head? := by
      cases body <;> rfl
    have hbare' : Bare (body ++ close :: rest) := by
      rw [Bare, hlike]
      exact hbare
    have hhead' : (body ++ close :: rest).head? ≠ some close := hlike ▸ hhead
    have hfuel : body.length < (body ++ close :: rest).length + 1 := by
      rw [List.length_append]
      omega
    rw [List.append_assoc]
    simp only [listed, hskip hbare', if_neg hhead']
    rw [hrest rest _ hfuel, List.length_append, Nat.add_assoc o]

theorem closed_listed (hitem : ∀ found, Local SameHead (item · found))
    (hclose : Ascii.isBlank close = false) (found : σ) :
    Closed (listed item close fault · found) := by
  intro o bs found' s h
  obtain ⟨body, rfl, hrest⟩ := listed_local hitem hclose h
  refine ⟨body ++ [close], by simp, by simp, ?_⟩
  intro rest _
  simp [hrest rest, Nat.add_assoc]

end Items

/-! ## The scanner of a payload -/

theorem local_row (offsets : List Nat) : Local SameHead (row · offsets) :=
  ((local_copyValue none).map fun offset _ => offset :: offsets).skipBlank

theorem local_rows (offsets : List Nat) : Local SameHead (rows · offsets) := by
  have hrows : ∀ {o bs}, Bare bs → Rest.skipBlank ⟨o, bs⟩ = ⟨o, bs⟩ := fun h =>
    skipBlank_of_bare h _
  apply Local.of_bare (fun s => by simp only [rows, skipBlank_skipBlank])
  intro o bs a s hbare h
  cases bs with
  | nil =>
    rw [rows, hrows hbare] at h
    cases h
  | cons b bs =>
    have hhead : ∀ tail, Bare (b :: tail) := fun tail => hbare.of_head? rfl
    simp only [rows, hrows hbare] at h
    split at h
    · next hopen =>
      have hlisted : Closed (listed row Ascii.closeBracket .commaOrBracket · offsets) :=
        closed_listed local_row (by decide) offsets
      obtain ⟨body, -, rfl, hrest⟩ := hlisted (o + 1) bs a s h
      refine ⟨b :: body, by simp, rfl, ?_⟩
      intro rest _
      have hlen : o + (b :: body).length = o + 1 + body.length := by
        rw [List.length_cons]
        omega
      simpa only [rows, List.cons_append, hrows (hhead _), if_pos hopen, hlen] using
        hrest rest trivial
    · next hopen =>
      split at h
      · next hnull =>
        have hcopy := (local_copyValue none).map fun _ _ => offsets
        obtain ⟨body, hne, heq, hrest⟩ := hcopy o (b :: bs) a s h
        cases body with
        | nil => exact absurd rfl hne
        | cons c body =>
          obtain ⟨rfl, rfl⟩ := List.cons.inj heq
          refine ⟨b :: body, hne, rfl, ?_⟩
          intro rest hlike
          simpa only [rows, List.cons_append, hrows (hhead _), if_neg hopen, if_pos hnull] using
            hrest rest hlike
      · cases h

theorem closed_fieldName : Closed fieldName := by
  apply Local.of_bare (fun s => by simp only [fieldName, skipBlank_skipBlank])
  intro o bs a s hbare h
  have hskip : ∀ {bs}, Bare bs → Rest.skipBlank ⟨o, bs⟩ = ⟨o, bs⟩ := fun h =>
    skipBlank_of_bare h _
  simp only [fieldName, hskip hbare] at h
  split at h
  · next hhead =>
    have hread := (Local.of_closed (closed_copyString (some []))).bind fun key =>
      Local.check (x := decode Json.parseText? key) fun name =>
        closed_expect Ascii.colon .colon name
    obtain ⟨body, hne, rfl, hrest⟩ := hread o bs a s h
    refine ⟨body, hne, rfl, ?_⟩
    intro rest _
    have hlike := sameHead_append hne s.octets rest
    have hhead' : (body ++ rest).head? = some Ascii.quote := hlike.trans hhead
    simp only [fieldName, hskip (hbare.of_head? hlike), if_pos hhead']
    exact hrest rest trivial
  · cases h

theorem local_fieldValue (name : String) (layout : Layout) :
    Local SameHead (fieldValue name · layout) := by
  intro o bs a s h
  simp only [fieldValue] at h ⊢
  split at h
  · next hname =>
    have hrows := (local_rows layout.rowOffsets).map fun _ offsets =>
      { layout with rowOffsets := offsets }
    simpa only [if_pos hname] using hrows o bs a s h
  · next hname =>
    have hread := (local_copyValue (some [])).judge (decode Json.parse?) fun value =>
      { layout with fields := layout.fields.insert name value }
    simpa only [if_neg hname] using hread o bs a s h

theorem local_field (layout : Layout) : Local SameHead (field · layout) :=
  (Local.of_closed closed_fieldName).bind fun name => local_fieldValue name layout

/-- The scanner of a payload stops just past a brace, and what follows the brace is no matter. -/
theorem scanObject_local {payload : Bytes} {layout : Layout} {s : Rest}
    (h : scanObject payload = .ok (layout, s)) :
    ∃ body, payload = body ++ Ascii.closeBrace :: s.octets ∧ ∀ rest,
      scanObject (body ++ Ascii.closeBrace :: rest) = .ok (layout, ⟨body.length + 1, rest⟩) := by
  rw [scanObject] at h
  obtain ⟨⟨o, bs⟩, hopen, h⟩ := exists_of_bind_eq_ok h
  obtain ⟨⟨found, s₂⟩, hlist, h⟩ := exists_of_bind_eq_ok h
  obtain ⟨rfl, rfl⟩ := Prod.mk.inj (Except.ok.inj h)
  obtain ⟨blanks, rfl, hb, hbare⟩ := exists_blanks_of_expect hopen
  rw [expect_append hb hbare] at hopen
  cases hopen
  obtain ⟨body, hbody, hrest⟩ := listed_local local_field (by decide) hlist
  refine ⟨blanks ++ Ascii.openBrace :: body, by simp [hbody], ?_⟩
  intro rest
  rw [List.append_assoc, List.cons_append, scanObject, expect_append hb hbare]
  simp only [bind, Except.bind, hrest rest, List.length_append, List.length_cons]
  congr 3
  omega

end RemoteSql.Payload
