import Mathlib
import RemoteSql.Proofs.Http.Exchange
import RemoteSql.Proofs.SortedMap
import RemoteSql.Proofs.Statement.Parameter
import RemoteSql.Statement.Parameter

/-!
# Slots that are filled in place

The slots belong to a caller who lends them. They are written one after the other, but not before it
is settled that there is a value for each, so filling them in place either fails and leaves them as
they were or comes to the slots with all the values.
-/

namespace RemoteSql.Parameters

abbrev SlotsM := ExceptT Error (StateM Parameters)

/-- A slot with the value that was given back for it, if there is one. -/
def filled (returned : SortedMap UInt32 (Option String)) (b : UInt32 × Parameter) :
    UInt32 × Parameter :=
  (b.1, { b.2 with value := (returned.get? b.1).getD b.2.value })

def write (returned : SortedMap UInt32 (Option String)) (slots : Parameters) (index : UInt32) :
    Parameters :=
  slots.map fun b => if b.1 = index then filled returned b else b

/-- Fills the slots in place with the values that were given back, one slot after the other. -/
def fill (returned : SortedMap UInt32 (Option String)) : SlotsM Unit := do
  let slots ← get
  if slots.isEmpty then pure ()
  else if returned.isEmpty then throw (.protocol .noOutParameters)
  else
    match (SortedMap.keys slots).find? fun index => (returned.get? index).isNone with
    | some missing => throw (.protocol (.noOutParameter missing))
    | none => modify fun slots => (SortedMap.keys slots).foldl (write returned) slots

variable {returned : SortedMap UInt32 (Option String)} {slots : Parameters}

@[simp] theorem filled_key (b : UInt32 × Parameter) : (filled returned b).1 = b.1 := rfl

@[simp] theorem filled_index (b : UInt32 × Parameter) :
    (filled returned b).2.index = b.2.index := rfl

@[simp] theorem filled_type (b : UInt32 × Parameter) : (filled returned b).2.type = b.2.type := rfl

@[simp] theorem filled_direction (b : UInt32 × Parameter) :
    (filled returned b).2.direction = b.2.direction := rfl

theorem filled_value {b : UInt32 × Parameter} {value : Option String}
    (h : returned.get? b.1 = some value) : (filled returned b).2.value = value := by
  rw [filled, h]
  rfl

theorem filled_filled (b : UInt32 × Parameter) :
    filled returned (filled returned b) = filled returned b := by
  unfold filled
  cases returned.get? b.1 <;> rfl

theorem foldl_write (indexes : List UInt32) (slots : Parameters) :
    indexes.foldl (write returned) slots =
      slots.map fun b => if b.1 ∈ indexes then filled returned b else b := by
  induction indexes generalizing slots with
  | nil => simp
  | cons index indexes ih =>
    rw [List.foldl_cons, ih, write, List.map_map]
    refine List.map_congr_left fun b _ => ?_
    by_cases hb : b.1 = index
    · simp [hb, filled_filled]
    · simp [hb]

theorem foldl_write_keys (slots : Parameters) :
    (SortedMap.keys slots).foldl (write returned) slots = slots.map (filled returned) := by
  rw [foldl_write]
  refine List.map_congr_left fun b hb => ?_
  exact if_pos (List.mem_map_of_mem hb)

/-- Filling slots in place is filling them at once, or not at all. -/
theorem run_fill (returned : SortedMap UInt32 (Option String)) (slots : Parameters) :
    (fill returned).run slots =
      match reconcile returned slots with
      | .ok slots' => (.ok (), slots')
      | .error e => (.error e, slots) := by
  have hget : (get : SlotsM Parameters).run slots = (.ok slots, slots) := rfl
  have hkeys : slots.map Prod.fst = SortedMap.keys slots := rfl
  rw [fill, run_bind, hget, reconcile, hkeys]
  dsimp only
  split
  · rfl
  split
  · rfl
  cases (SortedMap.keys slots).find? fun index => (returned.get? index).isNone with
  | some missing => rfl
  | none => exact congrArg (Prod.mk _) (foldl_write_keys slots)

theorem reconcile_of_complete (h : ∀ index ∈ SortedMap.keys slots, returned.get? index ≠ none) :
    reconcile returned slots = .ok (slots.map (filled returned)) := by
  cases slots with
  | nil => rfl
  | cons b slots =>
    have hreturned : returned ≠ [] := by
      rintro rfl
      exact h b.1 (by simp [SortedMap.keys]) rfl
    have hfind : ((b :: slots).map Prod.fst).find? (fun index => (returned.get? index).isNone) =
        none := by
      apply List.find?_eq_none.mpr
      intro index hindex
      simpa using h index hindex
    rw [reconcile, if_neg (by simp), if_neg (by simpa using hreturned), hfind]
    rfl

theorem reconcile_of_empty (hslots : slots ≠ []) :
    reconcile [] slots = .error (.protocol .noOutParameters) := by
  rw [reconcile, if_neg (by simpa using hslots)]
  rfl

theorem reconcile_of_missing (hslots : SortedMap.Ascending slots) (hreturned : returned ≠ [])
    {index : UInt32} (hindex : index ∈ SortedMap.keys slots) (hmissing : returned.get? index = none) :
    ∃ least, IsLeast {index | index ∈ SortedMap.keys slots ∧ returned.get? index = none} least ∧
      reconcile returned slots = .error (.protocol (.noOutParameter least)) := by
  have hne : slots ≠ [] := by
    rintro rfl
    cases hindex
  cases hfind : (SortedMap.keys slots).find? fun index => (returned.get? index).isNone with
  | none => exact absurd hmissing (by simpa using List.find?_eq_none.mp hfind index hindex)
  | some least =>
    refine ⟨least, ⟨?_, ?_⟩, ?_⟩
    · exact ⟨List.mem_of_find?_eq_some hfind, by simpa using List.find?_some hfind⟩
    · rintro index' ⟨hmem, hnone⟩
      obtain ⟨-, before, after, hkeys, hbefore⟩ := List.find?_eq_some_iff_append.mp hfind
      rw [hkeys] at hmem
      rcases List.mem_append.mp hmem with hmem | hmem
      · have hsome := hbefore index' hmem
        simp [hnone] at hsome
      · have hsorted : (SortedMap.keys slots).Pairwise (· < ·) := List.pairwise_map.mpr hslots
        rw [hkeys] at hsorted
        rcases List.mem_cons.mp hmem with rfl | hmem
        · exact UInt32.le_refl _
        · have hlt := List.rel_of_pairwise_cons (List.pairwise_append.mp hsorted).2.1 hmem
          exact UInt32.le_of_lt hlt
    · rw [reconcile, if_neg (by simpa using hne), if_neg (by simpa using hreturned)]
      rw [SortedMap.keys] at hfind
      rw [hfind]

end RemoteSql.Parameters
