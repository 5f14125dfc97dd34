/-!
# Sorted association lists

A finite map kept as a list of bindings in ascending order of their keys, each key once. What a
map holds under a key is `get?`, and each operation is pinned down by what it does to `get?`.
-/

namespace RemoteSql

/-- Bindings in ascending order of their keys. -/
abbrev SortedMap (κ ν : Type) := List (κ × ν)

namespace SortedMap

variable {κ ν : Type} [DecidableEq κ]

def get? (m : SortedMap κ ν) (k : κ) : Option ν := m.lookup k

def erase (m : SortedMap κ ν) (k : κ) : SortedMap κ ν := m.filter fun b => b.1 != k

def keys (m : SortedMap κ ν) : List κ := m.map Prod.fst

@[simp] theorem get?_nil (k : κ) : get? ([] : SortedMap κ ν) k = none := rfl

theorem get?_cons (k k' : κ) (v : ν) (m : SortedMap κ ν) :
    get? ((k', v) :: m) k = if k = k' then some v else get? m k := by
  rw [get?, List.lookup_cons]
  by_cases h : k = k'
  · simp [h]
  · have hb : (k == k') = false := by simp [h]
    simp [get?, hb, h]

@[simp] theorem get?_erase_self (m : SortedMap κ ν) (k : κ) : get? (erase m k) k = none := by
  induction m with
  | nil => rfl
  | cons b m ih =>
    by_cases h : b.1 = k
    · simpa [erase, h] using ih
    · have hb : erase (b :: m) k = b :: erase m k := by simp [erase, h]
      rw [hb, get?_cons, if_neg (fun e => h e.symm), ih]

theorem get?_erase_of_ne {k k' : κ} (h : k' ≠ k) (m : SortedMap κ ν) :
    get? (erase m k) k' = get? m k' := by
  induction m with
  | nil => rfl
  | cons b m ih =>
    by_cases hb : b.1 = k
    · have he : erase (b :: m) k = erase m k := by simp [erase, hb]
      rw [he, ih, get?_cons, if_neg (hb ▸ h)]
    · have he : erase (b :: m) k = b :: erase m k := by simp [erase, hb]
      rw [he, get?_cons, get?_cons, ih]

variable [LT κ] [DecidableLT κ]

/-- Binds a key, in place of an earlier binding. -/
def insert (m : SortedMap κ ν) (k : κ) (v : ν) : SortedMap κ ν :=
  match m with
  | [] => [(k, v)]
  | (k', v') :: rest =>
    if k < k' then (k, v) :: (k', v') :: rest
    else if k = k' then (k, v) :: rest
    else (k', v') :: insert rest k v

/-- The bindings given in any order, the last of each key. -/
def ofList (bs : List (κ × ν)) : SortedMap κ ν := bs.foldl (fun m b => insert m b.1 b.2) []

@[simp] theorem get?_insert_self (m : SortedMap κ ν) (k : κ) (v : ν) :
    get? (insert m k v) k = some v := by
  induction m with
  | nil => simp [insert, get?_cons]
  | cons b m ih =>
    unfold insert
    split
    · simp [get?_cons]
    · split
      · simp [get?_cons]
      · next h => rw [get?_cons, if_neg h, ih]

theorem get?_insert_of_ne {k k' : κ} (h : k' ≠ k) (m : SortedMap κ ν) (v : ν) :
    get? (insert m k v) k' = get? m k' := by
  induction m with
  | nil => simp [insert, get?_cons, h]
  | cons b m ih =>
    unfold insert
    split
    · rw [get?_cons, if_neg h]
    · split
      · next hk => rw [get?_cons, get?_cons, if_neg h, if_neg (hk ▸ h)]
      · rw [get?_cons, get?_cons, ih]

end SortedMap

end RemoteSql
