import Mathlib
import RemoteSql.Text.Basic

/-!
# Trimmed text

Trimming takes blanks off both ends of a text and nothing else.
-/

namespace RemoteSql.Text

variable {p : Char → Bool}

theorem exists_dropTrailing_append (p : Char → Bool) (cs : List Char) :
    ∃ after, cs = dropTrailing p cs ++ after ∧ ∀ c ∈ after, p c = true := by
  refine ⟨(cs.reverse.takeWhile p).reverse, ?_, ?_⟩
  · rw [dropTrailing, ← List.reverse_append, List.takeWhile_append_dropWhile, List.reverse_reverse]
  · intro c hc
    exact List.mem_takeWhile_imp (List.mem_reverse.mp hc)

theorem dropWhile_of_head {cs : List Char} (hhead : ∀ c ∈ cs.head?, p c = false) :
    cs.dropWhile p = cs := by
  cases cs with
  | nil => rfl
  | cons c cs => exact List.dropWhile_cons_of_neg (by simp [hhead c rfl])

theorem dropTrailing_append {cs after : List Char} (hlast : ∀ c ∈ cs.getLast?, p c = false)
    (hafter : ∀ c ∈ after, p c = true) : dropTrailing p (cs ++ after) = cs := by
  have hkept : cs.reverse.dropWhile p = cs.reverse :=
    dropWhile_of_head (by rwa [List.head?_reverse])
  rw [dropTrailing, List.reverse_append, List.dropWhile_append_of_pos (by simpa using hafter),
    hkept, List.reverse_reverse]

/-- A text is what trimming leaves, with blanks around it. -/
theorem exists_trimChars_append (cs : List Char) :
    ∃ before after, cs = before ++ (trimChars cs ++ after) ∧
      (∀ c ∈ before, isBlank c = true) ∧ ∀ c ∈ after, isBlank c = true := by
  obtain ⟨after, hrest, hafter⟩ := exists_dropTrailing_append isBlank (cs.dropWhile isBlank)
  refine ⟨cs.takeWhile isBlank, after, ?_, fun c hc => List.mem_takeWhile_imp hc, hafter⟩
  rw [trimChars, trimEndChars, ← hrest, List.takeWhile_append_dropWhile]

/-- What begins and ends with other characters than blanks is what trimming leaves. -/
theorem trimChars_append {before cs after : List Char} (hbefore : ∀ c ∈ before, isBlank c = true)
    (hhead : ∀ c ∈ cs.head?, isBlank c = false) (hlast : ∀ c ∈ cs.getLast?, isBlank c = false)
    (hafter : ∀ c ∈ after, isBlank c = true) : trimChars (before ++ (cs ++ after)) = cs := by
  rw [trimChars, trimEndChars, List.dropWhile_append_of_pos hbefore]
  cases cs with
  | nil =>
    rw [List.nil_append, List.dropWhile_eq_nil_iff.mpr hafter]
    rfl
  | cons c cs =>
    rw [dropWhile_of_head (by simpa using hhead)]
    exact dropTrailing_append hlast hafter

theorem trim_of_ends {s : String} (hhead : ∀ c ∈ s.toList.head?, isBlank c = false)
    (hlast : ∀ c ∈ s.toList.getLast?, isBlank c = false) : trim s = s := by
  have htrim := trimChars_append (List.forall_mem_nil _) hhead hlast (List.forall_mem_nil _)
  rw [List.nil_append, List.append_nil] at htrim
  rw [trim, htrim, String.ofList_toList]

theorem not_of_mem_head?_dropWhile (cs : List Char) :
    ∀ c ∈ (cs.dropWhile p).head?, p c = false := by
  intro c hc
  have hhead := List.head?_dropWhile_not p cs
  rw [Option.mem_def.mp hc] at hhead
  exact hhead

theorem not_of_mem_getLast?_dropTrailing (cs : List Char) :
    ∀ c ∈ (dropTrailing p cs).getLast?, p c = false := by
  rw [dropTrailing, List.getLast?_reverse]
  exact not_of_mem_head?_dropWhile cs.reverse

/-- The second text is the first without the blanks at its end. -/
structure EndTrimmed (s t : String) : Prop where
  blanks : ∃ after, s.toList = t.toList ++ after ∧ ∀ c ∈ after, isBlank c = true
  last : ∀ c ∈ t.toList.getLast?, isBlank c = false

/-- The second text is the first without the blanks at both its ends. -/
structure Trimmed (s t : String) : Prop where
  blanks : ∃ before after, s.toList = before ++ (t.toList ++ after) ∧
    (∀ c ∈ before, isBlank c = true) ∧ ∀ c ∈ after, isBlank c = true
  head : ∀ c ∈ t.toList.head?, isBlank c = false
  last : ∀ c ∈ t.toList.getLast?, isBlank c = false

theorem trimEnd_eq_iff {s t : String} : trimEnd s = t ↔ EndTrimmed s t := by
  constructor
  · rintro rfl
    obtain ⟨after, hs, hafter⟩ := exists_dropTrailing_append isBlank s.toList
    rw [trimEnd, trimEndChars]
    refine ⟨⟨after, by rwa [String.toList_ofList], hafter⟩, ?_⟩
    rw [String.toList_ofList]
    exact not_of_mem_getLast?_dropTrailing s.toList
  · rintro ⟨⟨after, hs, hafter⟩, hlast⟩
    rw [trimEnd, trimEndChars, hs, dropTrailing_append hlast hafter, String.ofList_toList]

theorem trim_eq_iff {s t : String} : trim s = t ↔ Trimmed s t := by
  constructor
  · rintro rfl
    obtain ⟨before, after, hs, hbefore, hafter⟩ := exists_trimChars_append s.toList
    obtain ⟨rest, hrest, -⟩ := exists_dropTrailing_append isBlank (s.toList.dropWhile isBlank)
    rw [trim]
    refine ⟨⟨before, after, by rwa [String.toList_ofList], hbefore, hafter⟩, ?_, ?_⟩
    · rw [String.toList_ofList]
      intro c hc
      apply not_of_mem_head?_dropWhile s.toList c
      rw [hrest, List.head?_append, ← trimEndChars, ← trimChars, Option.mem_def.mp hc]
      rfl
    · rw [String.toList_ofList]
      exact not_of_mem_getLast?_dropTrailing (s.toList.dropWhile isBlank)
  · rintro ⟨⟨before, after, hs, hbefore, hafter⟩, hhead, hlast⟩
    rw [trim, hs, trimChars_append hbefore hhead hlast hafter, String.ofList_toList]

end RemoteSql.Text
