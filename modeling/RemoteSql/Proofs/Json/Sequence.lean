import Mathlib
import RemoteSql.Proofs.Payload.Scanner

/-!
# Sequences in JSON text

Items between brackets are written with commas between them and white space anywhere. The relation
`Listed` says which text writes which items, given which text writes one; it is what a reader of
items and the scanner of a payload are both measured against.
-/

namespace RemoteSql.Json

open Payload (Blanks Fenced endsScalar)

def Spaces (bs : Bytes) : Prop := ∀ b ∈ bs, isSpace b = true

/-- Octets that do not begin with white space. -/
def Unspaced (bs : Bytes) : Prop := ∀ b ∈ bs.head?, isSpace b = false

/-- The octets that may follow a value, white space apart. -/
def isDelimiter (b : UInt8) : Bool :=
  b == Ascii.comma || b == Ascii.closeBracket || b == Ascii.closeBrace

/-- Octets that may follow a value. -/
def Delimited (bs : Bytes) : Prop := ∀ b ∈ bs.head?, (isSpace b || isDelimiter b) = true

@[simp] theorem spaces_nil : Spaces [] := by simp [Spaces]

@[simp] theorem unspaced_cons (b : UInt8) (bs : Bytes) :
    Unspaced (b :: bs) ↔ isSpace b = false := by
  simp [Unspaced]

@[simp] theorem delimited_nil : Delimited [] := by simp [Delimited]

@[simp] theorem delimited_cons (b : UInt8) (bs : Bytes) :
    Delimited (b :: bs) ↔ (isSpace b || isDelimiter b) = true := by
  simp [Delimited]

theorem isBlank_of_isSpace {b : UInt8} (h : isSpace b = true) : Ascii.isBlank b = true := by
  simp only [isSpace, Bool.or_eq_true, beq_iff_eq] at h
  rcases h with ((rfl | rfl) | rfl) | rfl <;> decide

theorem isSpace_of_isBlank {b : UInt8} (h : Ascii.isBlank b = false) : isSpace b = false := by
  cases hs : isSpace b with
  | false => rfl
  | true => rw [isBlank_of_isSpace hs] at h; cases h

theorem endsScalar_of_delimited {b : UInt8} (h : (isSpace b || isDelimiter b) = true) :
    endsScalar b = true := by
  rcases Bool.or_eq_true _ _ ▸ h with h | h
  · simp [endsScalar, isBlank_of_isSpace h]
  · simp only [isDelimiter, Bool.or_eq_true, beq_iff_eq] at h
    rcases h with (rfl | rfl) | rfl <;> decide

theorem endsWord_of_delimited {b : UInt8} (h : (isSpace b || isDelimiter b) = true) :
    endsWord b = true := by
  rcases Bool.or_eq_true _ _ ▸ h with h | h
  · simp [endsWord, h]
  · simp only [isDelimiter, Bool.or_eq_true, beq_iff_eq] at h
    rcases h with (rfl | rfl) | rfl <;> decide

theorem Spaces.blanks {bs : Bytes} (h : Spaces bs) : Blanks bs :=
  fun b hb => isBlank_of_isSpace (h b hb)

theorem Delimited.fenced {bs : Bytes} (h : Delimited bs) : Fenced bs :=
  fun b hb => endsScalar_of_delimited (h b hb)

theorem delimited_append {spaces : Bytes} (h : Spaces spaces) {b : UInt8}
    (hb : isDelimiter b = true) (bs : Bytes) : Delimited (spaces ++ b :: bs) := by
  cases spaces with
  | nil => simp [hb]
  | cons c spaces => simp [h c List.mem_cons_self]

theorem skipSpace_of_unspaced {bs : Bytes} (h : Unspaced bs) : skipSpace bs = bs := by
  cases bs with
  | nil => rfl
  | cons b bs => simp [skipSpace, (unspaced_cons b bs).mp h]

theorem skipSpace_append {spaces : Bytes} (h : Spaces spaces) (bs : Bytes) :
    skipSpace (spaces ++ bs) = skipSpace bs := by
  induction spaces with
  | nil => rfl
  | cons b spaces ih =>
    have hb : isSpace b = true := h b List.mem_cons_self
    have htail : Spaces spaces := fun c hc => h c (List.mem_cons_of_mem b hc)
    rw [List.cons_append, skipSpace, List.dropWhile_cons_of_pos hb]
    exact ih htail

theorem isSpace_of_isDelimiter {b : UInt8} (h : isDelimiter b = true) : isSpace b = false := by
  simp only [isDelimiter, Bool.or_eq_true, beq_iff_eq] at h
  rcases h with (rfl | rfl) | rfl <;> decide

theorem skipSpace_delimiter {spaces : Bytes} (hs : Spaces spaces) {b : UInt8}
    (hb : isDelimiter b = true) (bs : Bytes) : skipSpace (spaces ++ b :: bs) = b :: bs := by
  rw [skipSpace_append hs]
  exact skipSpace_of_unspaced ((unspaced_cons b bs).mpr (isSpace_of_isDelimiter hb))

theorem exists_spaces (bs : Bytes) : ∃ spaces, bs = spaces ++ skipSpace bs ∧ Spaces spaces :=
  ⟨bs.takeWhile isSpace, List.takeWhile_append_dropWhile.symm, fun _ => List.mem_takeWhile_imp⟩

/-! ## Items -/

section Items

variable {α : Type} {P Q : α → Bytes → Prop} {close : UInt8}

/-- Text that writes some items, at least one, up to and with the closing bracket. -/
inductive Listed (P : α → Bytes → Prop) (close : UInt8) : List α → Bytes → Prop
  | last {a : α} {item spaces : Bytes} (ha : P a item) (hs : Spaces spaces) :
      Listed P close [a] (item ++ (spaces ++ [close]))
  | cons {a : α} {item spaces : Bytes} {as : List α} {text : Bytes} (ha : P a item)
      (hs : Spaces spaces) (has : Listed P close as text) :
      Listed P close (a :: as) (item ++ (spaces ++ Ascii.comma :: text))

/-- Text that writes some items, perhaps none, up to and with the closing bracket. -/
inductive Enclosed (P : α → Bytes → Prop) (close : UInt8) : List α → Bytes → Prop
  | empty {spaces : Bytes} (hs : Spaces spaces) : Enclosed P close [] (spaces ++ [close])
  | listed {as : List α} {text : Bytes} (h : Listed P close as text) : Enclosed P close as text

theorem Listed.imp {as : List α} {text : Bytes} (h : Listed P close as text)
    (hPQ : ∀ a ∈ as, ∀ item, P a item → Q a item) : Listed Q close as text := by
  induction h with
  | last ha hs => exact .last (hPQ _ List.mem_cons_self _ ha) hs
  | cons ha hs _ ih =>
    exact .cons (hPQ _ List.mem_cons_self _ ha) hs
      (ih fun a hmem => hPQ a (List.mem_cons_of_mem _ hmem))

theorem Enclosed.imp {as : List α} {text : Bytes} (h : Enclosed P close as text)
    (hPQ : ∀ a ∈ as, ∀ item, P a item → Q a item) : Enclosed Q close as text := by
  cases h with
  | empty hs => exact .empty hs
  | listed h => exact .listed (h.imp hPQ)

theorem Listed.exists_item {as : List α} {text : Bytes} (h : Listed P close as text) {a : α}
    (ha : a ∈ as) : ∃ item, P a item := by
  induction h with
  | last hitem hs =>
    obtain rfl := List.mem_singleton.mp ha
    exact ⟨_, hitem⟩
  | cons hitem hs has ih =>
    rcases List.mem_cons.mp ha with rfl | ha
    · exact ⟨_, hitem⟩
    · exact ih ha

theorem Enclosed.exists_item {as : List α} {text : Bytes} (h : Enclosed P close as text) {a : α}
    (ha : a ∈ as) : ∃ item, P a item := by
  cases h with
  | empty hs => cases ha
  | listed h => exact h.exists_item ha

/-- Items that begin, white space apart, with an octet that closes nothing. -/
def Starting (P : α → Bytes → Prop) (close : UInt8) : Prop :=
  ∀ a item, P a item → ∃ spaces b tail, item = spaces ++ b :: tail ∧ Spaces spaces ∧
    Ascii.isBlank b = false ∧ b ≠ close ∧ P a (b :: tail)

theorem Listed.exists_start (hP : Starting P close) {as : List α} {text : Bytes}
    (h : Listed P close as text) :
    ∃ spaces b tail, text = spaces ++ b :: tail ∧ Spaces spaces ∧ Ascii.isBlank b = false ∧
      b ≠ close ∧ Listed P close as (b :: tail) := by
  cases h with
  | last ha hs =>
    obtain ⟨spaces, b, tail, rfl, hspaces, hb, hne, ha⟩ := hP _ _ ha
    exact ⟨spaces, b, _, List.append_assoc .., hspaces, hb, hne, .last ha hs⟩
  | cons ha hs has =>
    obtain ⟨spaces, b, tail, rfl, hspaces, hb, hne, ha⟩ := hP _ _ ha
    exact ⟨spaces, b, _, List.append_assoc .., hspaces, hb, hne, .cons ha hs has⟩

theorem Listed.length_le {as : List α} {text : Bytes} (h : Listed P close as text) :
    as.length ≤ text.length := by
  induction h with
  | last =>
    simp only [List.length_append, List.length_cons, List.length_nil]
    omega
  | cons _ _ _ ih =>
    simp only [List.length_append, List.length_cons]
    omega

variable {item : Bytes → Option (α × Bytes)}

/-- A reader of items reads what is listed, if it reads items written as `P` says. -/
theorem exists_listed_of_itemsFrom (hclose : isDelimiter close = true)
    (hitem : ∀ bs a rest, item bs = some (a, rest) → Delimited rest →
      ∃ body, bs = body ++ rest ∧ P a body)
    {bound bs : Bytes} {done r : List α} {rest : Bytes}
    (h : itemsFrom item close bound bs done = some (r, rest)) :
    ∃ as text, r = done.reverse ++ as ∧ bs = text ++ rest ∧ Listed P close as text := by
  induction bound generalizing bs done with
  | nil => cases h
  | cons _ bound ih =>
    rw [itemsFrom] at h
    split at h
    · cases h
    · next a tail hread =>
      obtain ⟨spaces, htail, hs⟩ := exists_spaces tail
      split at h
      · cases h
      · next b rest' hskip =>
        rw [hskip] at htail
        split at h
        · next hcomma =>
          subst hcomma
          obtain ⟨as, text, rfl, rfl, hlisted⟩ := ih h
          have hdelimited : Delimited tail := htail ▸ delimited_append hs (by decide) _
          obtain ⟨body, rfl, hP⟩ := hitem _ _ _ hread hdelimited
          exact ⟨a :: as, _, by simp, by simp [htail], .cons hP hs hlisted⟩
        · split at h
          · next hb =>
            subst hb
            simp only [Option.some.injEq, Prod.mk.injEq] at h
            obtain ⟨rfl, rfl⟩ := h
            have hdelimited : Delimited tail := htail ▸ delimited_append hs hclose _
            obtain ⟨body, rfl, hP⟩ := hitem _ _ _ hread hdelimited
            exact ⟨[a], _, by simp, by simp [htail], .last hP hs⟩
          · cases h

theorem exists_enclosed_of_items (hclose : isDelimiter close = true)
    (hitem : ∀ bs a rest, item bs = some (a, rest) → Delimited rest →
      ∃ body, bs = body ++ rest ∧ P a body)
    {bs : Bytes} {as : List α} {rest : Bytes} (h : items item close bs = some (as, rest)) :
    ∃ text, bs = text ++ rest ∧ Enclosed P close as text := by
  unfold items at h
  split at h
  · cases h
  · next b rest' hskip =>
    split at h
    · next hb =>
      subst hb
      cases h
      obtain ⟨spaces, hbs, hs⟩ := exists_spaces bs
      rw [hskip] at hbs
      exact ⟨spaces ++ [b], by simpa using hbs, .empty hs⟩
    · obtain ⟨as', text, rfl, hbs, hlisted⟩ := exists_listed_of_itemsFrom hclose hitem h
      exact ⟨text, hbs, .listed hlisted⟩

/-- What is listed is read by a reader that reads items written as `P` says. -/
theorem itemsFrom_of_listed (hclose : isDelimiter close = true) (hcomma : close ≠ Ascii.comma)
    (hitem : ∀ a body, P a body → ∀ rest, Delimited rest → item (body ++ rest) = some (a, rest))
    {as : List α} {text : Bytes} (h : Listed P close as text) {bound : Bytes}
    (hbound : as.length ≤ bound.length) (done : List α) (rest : Bytes) :
    itemsFrom item close bound (text ++ rest) done = some (done.reverse ++ as, rest) := by
  induction h generalizing bound done with
  | @last a item' spaces ha hs =>
    obtain ⟨b, bound, rfl⟩ : ∃ b bound', bound = b :: bound' :=
      List.exists_cons_of_length_pos hbound
    have hread := hitem a item' ha _ (delimited_append hs hclose rest)
    have hskip := skipSpace_delimiter hs hclose rest
    rw [List.append_assoc, List.append_assoc, List.singleton_append, itemsFrom, hread]
    simp [hskip, hcomma]
  | @cons a item' spaces as text ha hs _ ih =>
    obtain ⟨b, bound, rfl⟩ : ∃ b bound', bound = b :: bound' :=
      List.exists_cons_of_length_pos (by
        rw [List.length_cons] at hbound
        omega)
    have hdelimited : Delimited (spaces ++ Ascii.comma :: (text ++ rest)) :=
      delimited_append hs (by decide) _
    have hread := hitem a item' ha _ hdelimited
    have hskip := skipSpace_delimiter (b := Ascii.comma) hs (by decide) (text ++ rest)
    have hlen : as.length ≤ bound.length := by simpa using hbound
    rw [List.append_assoc, List.append_assoc, List.cons_append, itemsFrom, hread]
    simp only [hskip, if_true]
    rw [ih hlen]
    simp

/-- What is enclosed is read, provided that no item begins as the closing bracket does. -/
theorem items_of_enclosed (hclose : isDelimiter close = true) (hcomma : close ≠ Ascii.comma)
    (hitem : ∀ a body, P a body → ∀ rest, Delimited rest → item (body ++ rest) = some (a, rest))
    (hP : Starting P close) {as : List α} {text : Bytes} (h : Enclosed P close as text)
    (rest : Bytes) : items item close (text ++ rest) = some (as, rest) := by
  cases h with
  | @empty spaces hs =>
    rw [List.append_assoc, List.singleton_append, items, skipSpace_delimiter hs hclose rest]
    simp
  | listed h =>
    obtain ⟨spaces, b, tail, htext, hs, hb, hne, -⟩ := h.exists_start hP
    have hskip : skipSpace (text ++ rest) = b :: (tail ++ rest) := by
      rw [htext, List.append_assoc, List.cons_append, skipSpace_append hs]
      exact skipSpace_of_unspaced ((unspaced_cons b _).mpr (isSpace_of_isBlank hb))
    have hlen : as.length ≤ (text ++ rest).length := by
      rw [List.length_append]
      exact h.length_le.trans (Nat.le_add_right _ _)
    rw [items, hskip]
    simp only [if_neg hne]
    exact itemsFrom_of_listed hclose hcomma hitem h hlen [] rest

end Items

end RemoteSql.Json
