import Mathlib
import RemoteSql.Proofs.Trace
import RemoteSql.SortedMap

/-!
# Sorted association lists as finite maps

Every map that the operations build is ascending, and an ascending map is known by what it holds
under each key. Of bindings given in any order the last of each key counts.
-/

namespace RemoteSql.SortedMap

variable {κ ν : Type}

section Lookup

variable [DecidableEq κ]

theorem eq_nil_iff {m : SortedMap κ ν} : m = [] ↔ ∀ k, get? m k = none := by
  constructor
  · rintro rfl k
    rfl
  · intro h
    cases m with
    | nil => rfl
    | cons b m =>
      have hb := h b.1
      rw [get?_cons, if_pos rfl] at hb
      cases hb

theorem get?_append (m m' : SortedMap κ ν) (k : κ) :
    get? (m ++ m') k = (get? m k).or (get? m' k) := by
  induction m with
  | nil => simp
  | cons b m ih =>
    rw [List.cons_append, get?_cons, get?_cons, ih]
    by_cases h : k = b.1 <;> simp [h]

theorem get?_eq_none {m : SortedMap κ ν} {k : κ} (h : ∀ b ∈ m, b.1 ≠ k) : get? m k = none := by
  induction m with
  | nil => rfl
  | cons b m ih =>
    have hb : b.1 ≠ k := h b (by simp)
    rw [get?_cons, if_neg hb.symm]
    exact ih fun b' hb' => h b' (List.mem_cons_of_mem b hb')

theorem get?_eq_none_iff {m : SortedMap κ ν} {k : κ} : get? m k = none ↔ ∀ b ∈ m, b.1 ≠ k := by
  refine ⟨fun h b hb hbk => ?_, get?_eq_none⟩
  have hnone := List.lookup_eq_none_iff.mp h b hb
  simp [hbk] at hnone

theorem mem_keys_iff {m : SortedMap κ ν} {k : κ} : k ∈ keys m ↔ get? m k ≠ none := by
  rw [Ne, get?_eq_none_iff, keys, List.mem_map]
  simp

theorem count_keys_cons (b : κ × ν) (m : SortedMap κ ν) (k : κ) :
    (keys (b :: m)).count k = (keys m).count k + if b.1 = k then 1 else 0 := by
  simp [keys, List.count_cons]

theorem get?_eq_none_of_count {m : SortedMap κ ν} {k : κ} (h : (keys m).count k = 0) :
    get? m k = none :=
  get?_eq_none fun _ hb e => List.count_eq_zero.mp h (List.mem_map.mpr ⟨_, hb, e⟩)

theorem get?_reverse {m : SortedMap κ ν} {k : κ} (h : (keys m).count k ≤ 1) :
    get? m.reverse k = get? m k := by
  induction m with
  | nil => rfl
  | cons b m ih =>
    rw [count_keys_cons] at h
    rw [List.reverse_cons, get?_append, ih (Nat.le_of_add_right_le h), get?_cons, get?_cons,
      get?_nil]
    by_cases hb : k = b.1
    · rw [if_pos hb.symm] at h
      rw [get?_eq_none_of_count (by omega), if_pos hb]
      rfl
    · rw [if_neg hb, if_neg hb, Option.or_none]

theorem get?_of_mem {m : SortedMap κ ν} {b : κ × ν} (h : (keys m).count b.1 ≤ 1) (hb : b ∈ m) :
    get? m b.1 = some b.2 := by
  induction m with
  | nil => cases hb
  | cons b' m ih =>
    rw [count_keys_cons] at h
    rw [get?_cons]
    rcases List.mem_cons.mp hb with rfl | hb
    · rw [if_pos rfl]
    · have hpos : 0 < (keys m).count b.1 :=
        List.count_pos_iff.mpr (List.mem_map.mpr ⟨b, hb, rfl⟩)
      have hne : b.1 ≠ b'.1 := by
        intro e
        rw [if_pos e.symm] at h
        omega
      rw [if_neg hne, ih (Nat.le_of_add_right_le h) hb]

theorem mem_of_get? {m : SortedMap κ ν} {k : κ} {v : ν} (h : get? m k = some v) : (k, v) ∈ m := by
  obtain ⟨pre, post, rfl, -⟩ := List.lookup_eq_some_iff.mp h
  simp

end Lookup

/-- Keys in strictly ascending order. -/
def Ascending [LT κ] (m : SortedMap κ ν) : Prop := m.Pairwise fun a b => a.1 < b.1

theorem Ascending.erase [DecidableEq κ] [LT κ] {m : SortedMap κ ν} (h : Ascending m) (k : κ) :
    Ascending (m.erase k) := List.Pairwise.filter _ h

section Order

variable [DecidableEq κ] [LT κ] [DecidableLT κ]

theorem mem_insert {m : SortedMap κ ν} {k : κ} {v : ν} {b : κ × ν} (h : b ∈ insert m k v) :
    b = (k, v) ∨ b ∈ m := by
  induction m with
  | nil => simpa [insert] using h
  | cons b' m ih =>
    unfold insert at h
    split at h
    · simpa using h
    · split at h
      · rcases List.mem_cons.mp h with rfl | h
        · exact Or.inl rfl
        · exact Or.inr (List.mem_cons_of_mem b' h)
      · rcases List.mem_cons.mp h with rfl | h
        · exact Or.inr List.mem_cons_self
        · exact (ih h).imp_right (List.mem_cons_of_mem b')

/-- The last of several bindings of a key counts. -/
theorem get?_foldl_insert (bs : List (κ × ν)) (m : SortedMap κ ν) (k : κ) :
    get? (bs.foldl (fun m b => insert m b.1 b.2) m) k = (get? bs.reverse k).or (get? m k) := by
  induction bs generalizing m with
  | nil => simp
  | cons b bs ih =>
    obtain ⟨k', v⟩ := b
    rw [List.foldl_cons, ih, List.reverse_cons, get?_append, Option.or_assoc]
    by_cases h : k = k'
    · simp [h, get?_cons]
    · simp [h, get?_cons, get?_insert_of_ne h]

theorem ofList_concat (bs : List (κ × ν)) (b : κ × ν) :
    ofList (bs ++ [b]) = (ofList bs).insert b.1 b.2 := by
  rw [ofList, List.foldl_append]
  rfl

theorem get?_ofList (bs : List (κ × ν)) (k : κ) : get? (ofList bs) k = get? bs.reverse k := by
  rw [ofList, get?_foldl_insert, get?_nil, Option.or_none]

theorem get?_ofList_eq_some_iff {bs : List (κ × ν)} {k : κ} {v : ν} :
    get? (ofList bs) k = some v ↔ Since (· = (k, v)) (·.1 = k) bs := by
  refine iff_since (R := fun bs => get? (ofList bs) k = some v) (by simp [ofList]) ?_ bs
  intro bs b
  obtain ⟨k', v'⟩ := b
  rw [ofList_concat]
  by_cases h : k' = k
  · subst h
    simp
  · simp [get?_insert_of_ne (Ne.symm h), h]

theorem get?_ofList_eq_none_iff {bs : List (κ × ν)} {k : κ} :
    get? (ofList bs) k = none ↔ ∀ b ∈ bs, b.1 ≠ k := by
  rw [get?_ofList, get?_eq_none_iff]
  simp only [List.mem_reverse]

variable [IsStrictTotalOrder κ (· < ·)]

theorem ascending_insert {m : SortedMap κ ν} (h : Ascending m) (k : κ) (v : ν) :
    Ascending (insert m k v) := by
  induction m with
  | nil => simp [insert, Ascending]
  | cons b m ih =>
    obtain ⟨hb, hm⟩ := List.pairwise_cons.mp h
    unfold insert
    split
    · next hk =>
      refine List.pairwise_cons.mpr ⟨?_, h⟩
      intro b' hb'
      rcases List.mem_cons.mp hb' with rfl | hb'
      · exact hk
      · exact trans_of (· < ·) hk (hb b' hb')
    · split
      · next hk => exact List.pairwise_cons.mpr ⟨fun b' hb' => hk ▸ hb b' hb', hm⟩
      · next hlt hne =>
        have hgt : b.1 < k := (trichotomous_of (· < ·) b.1 k).resolve_right fun h =>
          h.elim (fun e => hne e.symm) hlt
        refine List.pairwise_cons.mpr ⟨?_, ih hm⟩
        intro b' hb'
        rcases mem_insert hb' with rfl | hb'
        · exact hgt
        · exact hb b' hb'

theorem ascending_ofList (bs : List (κ × ν)) : Ascending (ofList bs) := by
  suffices h : ∀ m : SortedMap κ ν, Ascending m →
      Ascending (bs.foldl (fun m b => insert m b.1 b.2) m) from h [] List.Pairwise.nil
  induction bs with
  | nil => exact fun m hm => hm
  | cons b bs ih => exact fun m hm => ih _ (ascending_insert hm b.1 b.2)

omit [DecidableEq κ] [DecidableLT κ] in
theorem Ascending.nodup_keys {m : SortedMap κ ν} (h : Ascending m) : (keys m).Nodup := by
  refine List.pairwise_map.mpr (h.imp fun {b b'} hlt he => ?_)
  rw [he] at hlt
  exact irrefl_of (· < ·) b'.1 hlt

omit [DecidableLT κ] in
theorem Ascending.get?_eq_some_iff {m : SortedMap κ ν} (h : Ascending m) {k : κ} {v : ν} :
    get? m k = some v ↔ (k, v) ∈ m :=
  ⟨mem_of_get?, fun hmem => get?_of_mem (List.nodup_iff_count_le_one.mp h.nodup_keys k) hmem⟩

omit [DecidableLT κ] in
theorem get?_eq_none_of_lt {m : SortedMap κ ν} {k : κ} (h : ∀ b ∈ m, k < b.1) :
    get? m k = none :=
  get?_eq_none fun b hb e => irrefl_of (· < ·) k (by simpa [e] using h b hb)

omit [DecidableLT κ] in
/-- A first key is not smaller than all keys of a map that holds the same. -/
theorem not_lt_of_get?_eq {k k' : κ} {v v' : ν} {m m' : SortedMap κ ν}
    (h' : Ascending ((k', v') :: m'))
    (heq : get? ((k, v) :: m) k = get? ((k', v') :: m') k) : ¬ k < k' := by
  intro hlt
  have hnone : get? ((k', v') :: m') k = none := get?_eq_none_of_lt fun b hb => by
    rcases List.mem_cons.mp hb with rfl | hb
    · exact hlt
    · exact trans_of (· < ·) hlt ((List.pairwise_cons.mp h').1 b hb)
  simp [hnone, get?_cons] at heq

omit [DecidableLT κ] in
/-- An ascending map is known by what it holds. -/
theorem Ascending.ext {m m' : SortedMap κ ν} (h : Ascending m) (h' : Ascending m')
    (heq : ∀ k, get? m k = get? m' k) : m = m' := by
  induction m generalizing m' with
  | nil =>
    cases m' with
    | nil => rfl
    | cons b m' =>
      obtain ⟨k, v⟩ := b
      simpa [get?_cons] using heq k
  | cons b m ih =>
    obtain ⟨k, v⟩ := b
    cases m' with
    | nil => simpa [get?_cons] using heq k
    | cons b' m' =>
      obtain ⟨k', v'⟩ := b'
      have hkey : k = k' := by
        rcases trichotomous_of (· < ·) k k' with hlt | he | hlt
        · exact absurd hlt (not_lt_of_get?_eq h' (heq k))
        · exact he
        · exact absurd hlt (not_lt_of_get?_eq h (heq k').symm)
      subst hkey
      obtain ⟨hk, hm⟩ := List.pairwise_cons.mp h
      obtain ⟨hk', hm'⟩ := List.pairwise_cons.mp h'
      have hval : v = v' := by simpa [get?_cons] using heq k
      have htail : m = m' := ih hm hm' fun k'' => by
        by_cases hne : k'' = k
        · rw [hne, get?_eq_none_of_lt hk, get?_eq_none_of_lt hk']
        · simpa [get?_cons, hne] using heq k''
      rw [hval, htail]

/-- Erasing a key from a map leaves the map of the other bindings. -/
theorem erase_ofList (bs : List (κ × ν)) (k : κ) : erase (ofList bs) k = ofList (erase bs k) := by
  apply ((ascending_ofList bs).erase k).ext (ascending_ofList _)
  intro k'
  have hrev : (erase bs k).reverse = erase bs.reverse k := by simp [erase, List.filter_reverse]
  by_cases h : k' = k
  · simp [h, get?_ofList, hrev]
  · rw [get?_erase_of_ne h, get?_ofList, get?_ofList, hrev, get?_erase_of_ne h]

end Order

end RemoteSql.SortedMap
