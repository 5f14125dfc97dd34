import Mathlib
import RemoteSql.Proofs.SortedMap
import RemoteSql.Proofs.Text.Utf8
import RemoteSql.Session.Store

/-!
# The cache as a finite map

A change to the cache updates one place of a map. Whatever was set and removed, the cache holds
under a key the id that was set there last, unless the key was removed since. It lists the keys that
it holds under once each, in the order of the octets of server, user and database.
-/

namespace RemoteSql

namespace SessionKey

variable {a b : SessionKey}

/-- The parts of a key, the one that decides first at the head. -/
def parts (k : SessionKey) : String ×ₗ String ×ₗ String :=
  toLex (k.serverUrl, toLex (k.username, k.database))

def octets (k : SessionKey) : Bytes ×ₗ Bytes ×ₗ Bytes :=
  toLex (Utf8.encode k.serverUrl, toLex (Utf8.encode k.username, Utf8.encode k.database))

theorem lt_iff : a < b ↔ a.serverUrl < b.serverUrl ∨ a.serverUrl = b.serverUrl ∧
    (a.username < b.username ∨ a.username = b.username ∧ a.database < b.database) := Iff.rfl

theorem parts_lt_iff : a.parts < b.parts ↔ a < b := by
  rw [parts, parts, Prod.Lex.toLex_lt_toLex, Prod.Lex.toLex_lt_toLex, lt_iff]

theorem parts_injective : Function.Injective parts := by
  rintro ⟨u, n, d⟩ ⟨u', n', d'⟩ h
  simpa [parts] using h

theorem octets_lt (h : a < b) : a.octets < b.octets := by
  rw [octets, octets, Prod.Lex.toLex_lt_toLex, Prod.Lex.toLex_lt_toLex]
  rcases lt_iff.mp h with hserver | ⟨hserver, huser | ⟨huser, hdatabase⟩⟩
  · exact Or.inl (Utf8.encode_lt hserver)
  · exact Or.inr ⟨congrArg Utf8.encode hserver, Or.inl (Utf8.encode_lt huser)⟩
  · exact Or.inr ⟨congrArg Utf8.encode hserver,
      Or.inr ⟨congrArg Utf8.encode huser, Utf8.encode_lt hdatabase⟩⟩

end SessionKey

instance isStrictTotalOrder_sessionKey : IsStrictTotalOrder SessionKey (· < ·) :=
  let parts : ((· < ·) : SessionKey → SessionKey → Prop) ↪r
      ((· < ·) : String ×ₗ String ×ₗ String → String ×ₗ String ×ₗ String → Prop) :=
    ⟨⟨SessionKey.parts, SessionKey.parts_injective⟩, SessionKey.parts_lt_iff⟩
  parts.isStrictTotalOrder

namespace SessionStore

inductive Change
  | set (k : SessionKey) (id : String)
  | remove (k : SessionKey)
  deriving DecidableEq, Repr

namespace Change

def key : Change → SessionKey
  | set k _ | remove k => k

/-- What the cache holds under the key afterwards. -/
def id? : Change → Option String
  | set _ id => some id
  | remove _ => none

theorem eq_set_iff {c : Change} {k : SessionKey} {id : String} :
    c = set k id ↔ c.key = k ∧ c.id? = some id := by
  cases c <;> simp [key, id?]

theorem eq_remove_iff {c : Change} {k : SessionKey} :
    c = remove k ↔ c.key = k ∧ c.id? = none := by
  cases c <;> simp [key, id?]

end Change

def change (s : SessionStore) : Change → SessionStore
  | .set k id => s.set k id
  | .remove k => s.remove k

/-- The cache after changes that were made to an empty one, in turn. -/
def changed (cs : List Change) : SessionStore := cs.foldl change []

theorem changed_concat (cs : List Change) (c : Change) :
    changed (cs ++ [c]) = (changed cs).change c := by
  simp [changed]

theorem find?_change (s : SessionStore) (c : Change) :
    (s.change c).find? = Function.update s.find? c.key c.id? := by
  funext k
  by_cases hk : k = c.key
  · subst hk
    rw [Function.update_self]
    cases c with
    | set k id => exact s.find?_set_self k id
    | remove k => exact s.find?_remove_self k
  · rw [Function.update_of_ne hk]
    cases c with
    | set k' id => exact find?_set_of_ne hk s id
    | remove k' => exact find?_remove_of_ne hk s

theorem ascending_change {s : SessionStore} (h : SortedMap.Ascending s) (c : Change) :
    SortedMap.Ascending (s.change c) := by
  cases c with
  | set k id => exact SortedMap.ascending_insert h k id
  | remove k => exact h.erase k

theorem find?_changed (cs : List Change) :
    (changed cs).find? = cs.foldl (fun m c => Function.update m c.key c.id?) fun _ => none := by
  induction cs using List.reverseRecOn with
  | nil => rfl
  | append_singleton cs c ih => rw [changed_concat, find?_change, ih, List.foldl_concat]

theorem ascending_changed (cs : List Change) : SortedMap.Ascending (changed cs) := by
  induction cs using List.reverseRecOn with
  | nil => exact List.Pairwise.nil
  | append_singleton cs c ih =>
    rw [changed_concat]
    exact ascending_change ih c

section Since

variable (cs : List Change) (k : SessionKey)

theorem find?_changed_eq_some_iff (id : String) :
    (changed cs).find? k = some id ↔ Since (· = .set k id) (·.key = k) cs := by
  refine iff_since (R := fun cs => (changed cs).find? k = some id) ?_ (fun cs c => ?_) cs
  · intro h
    cases h
  · rw [changed_concat, find?_change, Change.eq_set_iff]
    by_cases hk : c.key = k
    · subst hk
      simp
    · simp [hk, Function.update_of_ne (Ne.symm hk)]

theorem find?_changed_ne_none_iff :
    (changed cs).find? k ≠ none ↔ Since (fun c => ∃ id, c = .set k id) (· = .remove k) cs := by
  refine iff_since (R := fun cs => (changed cs).find? k ≠ none) ?_ (fun cs c => ?_) cs
  · exact fun h => h rfl
  · rw [changed_concat, find?_change, Change.eq_remove_iff]
    simp only [Change.eq_set_iff]
    by_cases hk : c.key = k
    · subst hk
      simp [Option.ne_none_iff_exists']
    · simp [hk, Function.update_of_ne (Ne.symm hk)]

end Since

/-- What a cache answers after some changes. -/
structure Reflects (cs : List Change) (s : SessionStore) : Prop where
  find?_eq : s.find? = cs.foldl (fun m c => Function.update m c.key c.id?) fun _ => none
  find?_eq_some_iff : ∀ k id, s.find? k = some id ↔ Since (· = .set k id) (·.key = k) cs
  find?_ne_none_iff : ∀ k, s.find? k ≠ none ↔
    Since (fun c => ∃ id, c = .set k id) (· = .remove k) cs
  contains_iff : ∀ k, s.contains k = true ↔ s.find? k ≠ none
  mem_list_iff : ∀ k, k ∈ s.list ↔ s.find? k ≠ none
  nodup_list : s.list.Nodup
  ascending_list : s.list.Pairwise fun a b => a.octets < b.octets
  length_eq : s.length = s.list.length

/-- The cache is the finite map that its changes describe. -/
theorem reflects_changed (cs : List Change) : Reflects cs (changed cs) where
  find?_eq := find?_changed cs
  find?_eq_some_iff := find?_changed_eq_some_iff cs
  find?_ne_none_iff := find?_changed_ne_none_iff cs
  contains_iff _ := Option.isSome_iff_ne_none
  mem_list_iff _ := SortedMap.mem_keys_iff
  nodup_list := (ascending_changed cs).nodup_keys
  ascending_list := List.pairwise_map.mpr ((ascending_changed cs).imp SessionKey.octets_lt)
  length_eq := (List.length_map Prod.fst).symm

end SessionStore

end RemoteSql
