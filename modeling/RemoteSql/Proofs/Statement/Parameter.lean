import Mathlib
import RemoteSql.Proofs.SortedMap
import RemoteSql.Proofs.Trace
import RemoteSql.Statement.Parameter

/-!
# Parameters that were bound

Parameters are built by calls of which each binds one or drops all. What they hold afterwards is, of
each index, the binding that was made there last, in ascending order of the indexes.
-/

namespace RemoteSql

instance isStrictTotalOrder_uint32 : IsStrictTotalOrder UInt32 (· < ·) where
  irrefl := UInt32.lt_irrefl
  trans _ _ _ := UInt32.lt_trans
  trichotomous _ _ h h' := UInt32.le_antisymm (UInt32.not_lt.mp h') (UInt32.not_lt.mp h)

namespace Parameters

inductive Call
  | set (index : UInt32) (type : String) (value : Option String)
  | bind (p : Parameter)
  | clear
  deriving DecidableEq, Repr

def call (ps : Parameters) : Call → Parameters
  | .set index type value => ps.set index type value
  | .bind p => ps.bind p
  | .clear => []

def built (calls : List Call) : Parameters := calls.foldl call []

namespace Call

def binding? : Call → Option Parameter
  | set index type value => some { index, type, value }
  | bind p => some p
  | clear => none

/-- Whether a call does away with what was bound at an index. -/
def Drops (index : UInt32) : Call → Prop
  | set index' .. => index' = index
  | bind p => p.index = index
  | clear => True

end Call

/-- The calls have bound a parameter, and since then neither bound its index again nor dropped all
parameters. -/
def Bound (calls : List Call) (p : Parameter) : Prop :=
  Since (fun c => c.binding? = some p) (fun c => c.Drops p.index) calls

variable {ps : Parameters} {calls : List Call}

theorem get?_call (c : Call) (index : UInt32) (p : Parameter) :
    SortedMap.get? (ps.call c) index = some p ↔
      c.binding? = some p ∧ p.index = index ∨
        SortedMap.get? ps index = some p ∧ ¬c.Drops index := by
  have hinsert : ∀ q : Parameter, SortedMap.get? (ps.bind q) index = some p ↔
      q = p ∧ p.index = index ∨ SortedMap.get? ps index = some p ∧ ¬q.index = index := by
    intro q
    rw [bind]
    by_cases hq : q.index = index
    · subst hq
      rw [SortedMap.get?_insert_self]
      constructor
      · rintro ⟨⟩
        exact Or.inl ⟨rfl, rfl⟩
      · rintro (⟨rfl, -⟩ | ⟨-, h⟩)
        · rfl
        · exact absurd rfl h
    · rw [SortedMap.get?_insert_of_ne (Ne.symm hq)]
      constructor
      · exact fun h => Or.inr ⟨h, hq⟩
      · rintro (⟨rfl, h⟩ | ⟨h, -⟩)
        · exact absurd h hq
        · exact h
  cases c with
  | set i type value => simpa [call, set, Call.Drops, Call.binding?] using hinsert ⟨i, type, value, .input⟩
  | bind q => simpa [call, Call.Drops, Call.binding?] using hinsert q
  | clear => simp [call, Call.Drops, Call.binding?]

theorem get?_built {index : UInt32} {p : Parameter} :
    SortedMap.get? (built calls) index = some p ↔
      Since (fun c => c.binding? = some p ∧ p.index = index) (fun c => c.Drops index) calls := by
  refine iff_since (R := fun calls => SortedMap.get? (built calls) index = some p) ?_
    (fun calls c => ?_) calls
  · intro h
    cases h
  · have hbuilt : built (calls ++ [c]) = (built calls).call c := by simp [built]
    rw [hbuilt, get?_call]

theorem ascending_call (h : SortedMap.Ascending ps) (c : Call) :
    SortedMap.Ascending (ps.call c) := by
  cases c with
  | set index type value => exact SortedMap.ascending_insert h _ _
  | bind p => exact SortedMap.ascending_insert h _ _
  | clear => exact List.Pairwise.nil

theorem ascending_built (calls : List Call) : SortedMap.Ascending (built calls) := by
  induction calls using List.reverseRecOn with
  | nil => exact List.Pairwise.nil
  | append_singleton calls c ih =>
    rw [built, List.foldl_concat]
    exact ascending_call ih c

theorem mem_built {b : UInt32 × Parameter} :
    b ∈ built calls ↔ Bound calls b.2 ∧ b.2.index = b.1 := by
  rw [← (ascending_built calls).get?_eq_some_iff, get?_built]
  constructor
  · rintro ⟨pre, c, post, hcalls, ⟨hc, hindex⟩, hpost⟩
    rw [← hindex] at hpost
    exact ⟨⟨pre, c, post, hcalls, hc, hpost⟩, hindex⟩
  · rintro ⟨⟨pre, c, post, hcalls, hc, hpost⟩, hindex⟩
    rw [hindex] at hpost
    exact ⟨pre, c, post, hcalls, ⟨hc, hindex⟩, hpost⟩

theorem mem_toList_built {p : Parameter} : p ∈ (built calls).toList ↔ Bound calls p := by
  rw [toList, List.mem_map]
  constructor
  · rintro ⟨b, hb, rfl⟩
    exact (mem_built.mp hb).1
  · intro h
    exact ⟨(p.index, p), mem_built.mpr ⟨h, rfl⟩, rfl⟩

theorem ascending_toList_built (calls : List Call) :
    (built calls).toList.Pairwise fun p q => p.index < q.index := by
  refine List.pairwise_map.mpr ((ascending_built calls).imp_of_mem fun hb hb' hlt => ?_)
  rwa [(mem_built.mp hb).2, (mem_built.mp hb').2]

end Parameters

end RemoteSql
