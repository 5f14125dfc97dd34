import Mathlib
import RemoteSql.Cursor.Open

/-!
# Moves of a cursor

Where a move leads depends on the row count and the position alone. The cursor then goes there, or
stays where it is when the move leads nowhere. Going to a row means reading it, going past an end
does not.
-/

namespace RemoteSql.Cursor

inductive Move
  | next
  | previous
  | absolute (row : Int)
  | first
  | last
  | beforeFirst
  | afterLast
  deriving DecidableEq, Repr

/-- Where a jump leads among `n` rows; `none` when it leads nowhere. -/
def jump (n : Nat) (row : Int) : Option Nat :=
  if 0 ≤ row ∧ row ≤ n then some row.toNat else none

theorem jump_natCast {n p : Nat} (h : p ≤ n) : jump n p = some p := by
  simp [jump, h]

/-- Where a move leads from a position among `n` rows. -/
def Move.target (n p : Nat) : Move → Option Nat
  | .next => if p < n then some (p + 1) else none
  | .previous => if p ≤ 1 then none else some (p - 1)
  | .absolute row => jump n row
  | .first => jump n 1
  | .last => jump n n
  | .beforeFirst => some 0
  | .afterLast => some (n + 1)

theorem Move.target_le {m : Move} {n p q : Nat} (hp : p ≤ n + 1) (h : m.target n p = some q) :
    q ≤ n + 1 := by
  cases m with
  | next | previous | beforeFirst | afterLast =>
    simp only [target, Option.ite_none_right_eq_some, Option.ite_none_left_eq_some,
      Option.some.injEq] at h
    omega
  | absolute | first | last =>
    simp only [target, jump, Option.ite_none_right_eq_some, Option.some.injEq] at h
    omega

/-- Makes a move. The moves past an end do not tell whether they were made, for they always are. -/
def Move.run : Move → Cursor → Except Error Bool × Cursor
  | .next, c => c.next
  | .previous, c => c.previous
  | .absolute row, c => c.absolute row
  | .first, c => c.first
  | .last, c => c.last
  | .beforeFirst, c => (c.beforeFirst.1.map fun _ => true, c.beforeFirst.2)
  | .afterLast, c => (c.afterLast.1.map fun _ => true, c.afterLast.2)

/-- Goes to a position, which is read if it is a row. -/
def enter (c : Cursor) (p : Nat) : Except Error Bool × Cursor :=
  if 1 ≤ p ∧ p ≤ c.rowCount then c.goTo p else (.ok true, c.rest p)

variable {c : Cursor}

theorem ensureOpen_of_open (h : c.isClosed = false) : c.ensureOpen = .ok () := by
  simp [ensureOpen, h]

theorem ensureOpen_of_closed (h : c.isClosed = true) :
    c.ensureOpen = .error (.closed .cursor) := by
  simp [ensureOpen, h]

theorem enter_of_row {p : Nat} (h₁ : 1 ≤ p) (hn : p ≤ c.rowCount) : c.enter p = c.goTo p :=
  if_pos ⟨h₁, hn⟩

theorem enter_of_not_row {p : Nat} (h : ¬(1 ≤ p ∧ p ≤ c.rowCount)) :
    c.enter p = (.ok true, c.rest p) :=
  if_neg h

theorem absolute_eq (h : c.isClosed = false) (row : Int) :
    c.absolute row = match jump c.rowCount row with
      | none => (.ok false, c)
      | some p => c.enter p := by
  rw [absolute, ensureOpen_of_open h, jump]
  dsimp only
  by_cases hrange : 0 ≤ row ∧ row ≤ c.rowCount
  · have hnot : ¬(row < 0 ∨ (c.rowCount : Int) < row) := by omega
    rw [if_pos hrange, if_neg hnot]
    dsimp only
    by_cases hzero : row = 0
    · subst hzero
      rw [if_pos rfl, enter_of_not_row (by simp), Int.toNat_zero]
    · rw [if_neg hzero, enter_of_row (by omega) (by omega)]
  · have hout : row < 0 ∨ (c.rowCount : Int) < row := by omega
    rw [if_neg hrange, if_pos hout]

/-- A move of an open cursor enters the position where it leads. -/
theorem Move.run_of_open (m : Move) (h : c.isClosed = false) (hp : c.position ≤ c.rowCount + 1) :
    m.run c = match m.target c.rowCount c.position with
      | none => (.ok false, c)
      | some p => c.enter p := by
  have hopen := ensureOpen_of_open h
  cases m with
  | next =>
    rw [run, Cursor.next, hopen, target]
    dsimp only
    by_cases hlt : c.position < c.rowCount
    · have hle : ¬c.rowCount ≤ c.position := by omega
      rw [if_pos hlt, if_neg hle]
      exact (enter_of_row (by omega) (by omega)).symm
    · rw [if_neg hlt, if_pos (by omega)]
  | previous =>
    rw [run, Cursor.previous, hopen, target]
    dsimp only
    by_cases hle : c.position ≤ 1
    · rw [if_pos hle, if_pos hle]
    · rw [if_neg hle, if_neg hle]
      exact (enter_of_row (by omega) (by omega)).symm
  | absolute row => exact absolute_eq h row
  | first => exact absolute_eq h 1
  | last => exact absolute_eq h c.rowCount
  | beforeFirst =>
    rw [run, Cursor.beforeFirst, hopen, target]
    exact (enter_of_not_row (by omega)).symm
  | afterLast =>
    rw [run, Cursor.afterLast, hopen, target]
    exact (enter_of_not_row (by omega)).symm

theorem Move.run_of_closed (m : Move) (h : c.isClosed = true) :
    m.run c = (.error (.closed .cursor), c) := by
  have hclosed := ensureOpen_of_closed h
  cases m with
  | next => rw [run, Cursor.next, hclosed]
  | previous => rw [run, Cursor.previous, hclosed]
  | absolute row => rw [run, Cursor.absolute, hclosed]
  | first => rw [run, Cursor.first, Cursor.absolute, hclosed]
  | last => rw [run, Cursor.last, Cursor.absolute, hclosed]
  | beforeFirst =>
    rw [run, Cursor.beforeFirst, hclosed]
    rfl
  | afterLast =>
    rw [run, Cursor.afterLast, hclosed]
    rfl

/-- The row that a move of a cursor reads, if it reads one. -/
def Move.row? (m : Move) (c : Cursor) : Option Nat :=
  if c.isClosed then none
  else (m.target c.rowCount c.position).filter fun p => 1 ≤ p ∧ p ≤ c.rowCount

theorem Move.row?_eq_some_iff {m : Move} {row : Nat} :
    m.row? c = some row ↔ c.isClosed = false ∧ m.target c.rowCount c.position = some row ∧
      1 ≤ row ∧ row ≤ c.rowCount := by
  unfold row?
  cases hc : c.isClosed <;> simp [Option.filter_eq_some_iff]

/-- What a move does: it fails on a closed cursor, stays, comes to rest past an end, or goes to the
row that it reads. -/
theorem Move.run_cases (m : Move) (hp : c.position ≤ c.rowCount + 1) :
    (c.isClosed = true ∧ m.row? c = none ∧ m.run c = (.error (.closed .cursor), c)) ∨
    (c.isClosed = false ∧ m.row? c = none ∧ m.target c.rowCount c.position = none ∧
      m.run c = (.ok false, c)) ∨
    (∃ p, c.isClosed = false ∧ m.row? c = none ∧ m.target c.rowCount c.position = some p ∧
      (p = 0 ∨ p = c.rowCount + 1) ∧ m.run c = (.ok true, c.rest p)) ∨
    ∃ row, m.row? c = some row ∧ m.run c = c.goTo row := by
  cases hc : c.isClosed with
  | true => exact Or.inl ⟨rfl, by simp [row?, hc], m.run_of_closed hc⟩
  | false =>
    have hrun := m.run_of_open hc hp
    cases ht : m.target c.rowCount c.position with
    | none =>
      rw [ht] at hrun
      exact Or.inr (Or.inl ⟨rfl, by simp [row?, ht], rfl, hrun⟩)
    | some p =>
      rw [ht] at hrun
      by_cases hrow : 1 ≤ p ∧ p ≤ c.rowCount
      · refine Or.inr (Or.inr (Or.inr ⟨p, row?_eq_some_iff.mpr ⟨hc, ht, hrow⟩, ?_⟩))
        exact hrun.trans (enter_of_row hrow.1 hrow.2)
      · have hend : p = 0 ∨ p = c.rowCount + 1 := by
          have hle := Move.target_le hp ht
          omega
        refine Or.inr (Or.inr (Or.inl ⟨p, rfl, ?_, rfl, hend, ?_⟩))
        · simp [row?, ht, hc]
          omega
        · exact hrun.trans (enter_of_not_row hrow)

end RemoteSql.Cursor
