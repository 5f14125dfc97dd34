import Mathlib
import RemoteSql.Proofs.Cursor.Course

/-!
# Moves as a machine on positions

What moves report and where they lead is told by a machine that knows the row count, the position
and which rows can be read, and nothing else. A cursor follows the machine step by step, so it does
so over every sequence of moves.
-/

namespace RemoteSql

/-- A row that the scan has found, that is JSON and whose cells are well formed. -/
def Layout.WellFormedRow (layout : Layout) (payload : Bytes) (row : Nat) : Prop :=
  ∃ offset v cells, layout.rowOffsets[row - 1]? = some offset ∧
    Json.lead (payload.drop offset) = .value v ∧ Row.cells row v = .ok cells

theorem Layout.wellFormedRow_iff (layout : Layout) (payload : Bytes) (row : Nat) :
    layout.WellFormedRow payload row ↔ ∃ cells, layout.rowCells payload row = .ok cells := by
  constructor
  · rintro ⟨offset, v, cells, hoffset, hlead, hcells⟩
    refine ⟨cells, ?_⟩
    simp only [rowCells, hoffset, Row.read, hlead, hcells]
  · rintro ⟨cells, h⟩
    unfold rowCells at h
    split at h
    · cases h
    · next offset hoffset =>
      unfold Row.read at h
      split at h
      · cases h
      · cases h
      · next v hlead => exact ⟨offset, v, cells, hoffset, hlead, h⟩

namespace Cursor

/-- A step of the machine from a position among `n` rows: what is reported, and the position. A row
that cannot be read is not moved to. -/
def Move.step (n : Nat) (rows : Nat → Except Error (List Cell)) (p : Nat) (m : Move) :
    Except Error Bool × Nat :=
  match m.target n p with
  | none => (.ok false, p)
  | some q =>
    if 1 ≤ q ∧ q ≤ n then
      match rows q with
      | .ok _ => (.ok true, q)
      | .error e => (.error e, p)
    else (.ok true, q)

/-- What the machine reports over a sequence of moves, and the position after each. -/
def steps (n : Nat) (rows : Nat → Except Error (List Cell)) :
    Nat → List Move → List (Except Error Bool × Nat)
  | _, [] => []
  | p, m :: ms => m.step n rows p :: steps n rows (m.step n rows p).2 ms

/-- What a cursor reports over a sequence of moves, and its position after each. -/
def reports : Cursor → List Move → List (Except Error Bool × Nat)
  | _, [] => []
  | c, m :: ms => ((m.run c).1, (m.run c).2.position) :: reports (m.run c).2 ms

def afterNexts (c : Cursor) : Nat → Cursor
  | 0 => c
  | k + 1 => (afterNexts c k).next.2

variable {payload : Bytes} {layout : Layout} {n : Nat} {s : Course} {c : Cursor}

/-- One move of an open cursor is a step of the machine, and the cursor stays open. -/
theorem Consistent.run_eq_step (h : Consistent payload layout n s)
    (hopen : s.cursor.isClosed = false) (m : Move) :
    ((m.run s.cursor).1, (m.run s.cursor).2.position) =
        m.step n (layout.rowCells payload) s.cursor.position ∧
      (m.run s.cursor).2.isClosed = false := by
  have hrun := m.run_of_open hopen h.position_le_rowCount
  rw [h.rowCount_eq] at hrun
  rw [hrun, Move.step]
  cases htarget : m.target n s.cursor.position with
  | none => exact ⟨rfl, hopen⟩
  | some q =>
    dsimp only
    by_cases hrow : 1 ≤ q ∧ q ≤ n
    · rw [if_pos hrow, enter_of_row hrow.1 (h.rowCount_eq ▸ hrow.2)]
      rcases goTo_cases s.cursor q with ⟨cells, hread, hgo⟩ | ⟨e, hread, hgo⟩
      · rw [h.readRow_eq hopen] at hread
        rw [hgo, hread]
        exact ⟨rfl, hopen⟩
      · rw [h.readRow_eq hopen] at hread
        rw [hgo, hread]
        exact ⟨rfl, hopen⟩
    · rw [if_neg hrow, enter_of_not_row (h.rowCount_eq ▸ hrow)]
      exact ⟨rfl, hopen⟩

theorem Consistent.reports_eq_steps (h : Consistent payload layout n s)
    (hopen : s.cursor.isClosed = false) (ms : List Move) :
    reports s.cursor ms = steps n (layout.rowCells payload) s.cursor.position ms := by
  induction ms generalizing s with
  | nil => rfl
  | cons m ms ih =>
    obtain ⟨hstep, hopen'⟩ := h.run_eq_step hopen m
    have hrest := ih (h.move m) hopen'
    rw [reports, steps, ← hstep]
    exact congrArg (List.cons _) hrest

theorem Consistent.next_of_le (h : Consistent payload layout n s)
    (hopen : s.cursor.isClosed = false) (hle : n ≤ s.cursor.position) :
    s.cursor.next = (.ok false, s.cursor) := by
  have hle' : s.cursor.rowCount ≤ s.cursor.position := h.rowCount_eq ▸ hle
  rw [next, ensureOpen_of_open hopen]
  exact if_pos hle'

theorem Consistent.next_of_lt (h : Consistent payload layout n s)
    (hopen : s.cursor.isClosed = false) (hlt : s.cursor.position < n) :
    s.cursor.next = s.cursor.goTo (s.cursor.position + 1) := by
  have hlt' : ¬s.cursor.rowCount ≤ s.cursor.position := by
    rw [h.rowCount_eq]
    omega
  rw [next, ensureOpen_of_open hopen]
  exact if_neg hlt'

theorem course_replicate_next (c : Cursor) (k : Nat) :
    (course c (List.replicate k (.move .next))).cursor = c.afterNexts k := by
  induction k with
  | zero => rfl
  | succ k ih =>
    rw [List.replicate_succ', course_concat, afterNexts, ← ih]
    rfl

section Visits

variable (h : Fresh payload layout c)
  (hrows : ∀ row, 1 ≤ row → row ≤ c.rowCount → layout.WellFormedRow payload row)

include h hrows

/-- What the next call does is known from the position, for the cursor is in use. -/
theorem Fresh.next_cases {k : Nat} (hopen : (c.afterNexts k).isClosed = false)
    (hpos : (c.afterNexts k).position = min k c.rowCount) :
    (c.rowCount ≤ k ∧ (c.afterNexts k).next = (.ok false, c.afterNexts k)) ∨
    (k < c.rowCount ∧ ∃ cells c', layout.rowCells payload (k + 1) = .ok cells ∧
      (c.afterNexts k).next = (.ok true, c') ∧ c'.isClosed = false ∧ c'.position = k + 1 ∧
      c'.values = cells.map (·.raw)) := by
  have hused := h.consistent.course (List.replicate k (.move .next))
  rw [← course_replicate_next] at hopen hpos ⊢
  by_cases hlt : k < c.rowCount
  · rw [Nat.min_eq_left hlt.le] at hpos
    have hrow := hrows (k + 1) (by omega) hlt
    obtain ⟨cells, hcells⟩ := (layout.wellFormedRow_iff payload _).mp hrow
    obtain ⟨c', hgo, hopen', hpos', hvalues⟩ := hused.goTo_eq hopen hcells
    refine Or.inr ⟨hlt, cells, c', hcells, ?_, hopen', hpos', hvalues⟩
    rw [hused.next_of_lt hopen (by omega), hpos]
    exact hgo
  · have hle : c.rowCount ≤ k := Nat.le_of_not_lt hlt
    rw [Nat.min_eq_right hle] at hpos
    exact Or.inl ⟨hle, hused.next_of_le hopen hpos.ge⟩

/-- Each `next` moves on by one row until the last one is current, and then no more. -/
theorem Fresh.afterNexts_spec (k : Nat) :
    (c.afterNexts k).isClosed = false ∧ (c.afterNexts k).position = min k c.rowCount ∧
      (1 ≤ min k c.rowCount → ∃ cells, layout.rowCells payload (min k c.rowCount) = .ok cells ∧
        (c.afterNexts k).values = cells.map (·.raw)) := by
  induction k with
  | zero =>
    rw [Nat.zero_min]
    exact ⟨h.isClosed_eq, h.position_eq, fun hpos => absurd hpos (by decide)⟩
  | succ k ih =>
    obtain ⟨hopen, hpos, hvalues⟩ := ih
    rw [afterNexts]
    obtain ⟨hle, hstay⟩ | ⟨hlt, cells, c', hcells, hgo, hopen', hpos', hvalues'⟩ :=
      h.next_cases hrows hopen hpos
    · rw [hstay, Nat.min_eq_right (hle.trans k.le_succ)]
      rw [Nat.min_eq_right hle] at hpos hvalues
      exact ⟨hopen, hpos, hvalues⟩
    · rw [hgo, Nat.min_eq_left hlt]
      exact ⟨hopen', hpos', fun _ => ⟨cells, hcells, hvalues'⟩⟩

theorem Fresh.next_afterNexts (k : Nat) :
    (c.afterNexts k).next.1 = .ok (decide (k < c.rowCount)) := by
  obtain ⟨hopen, hpos, -⟩ := h.afterNexts_spec hrows k
  rcases h.next_cases hrows hopen hpos with ⟨hle, hstay⟩ | ⟨hlt, cells, c', -, hgo, -⟩
  · rw [hstay, decide_eq_false (Nat.not_lt.mpr hle)]
  · rw [hgo, decide_eq_true hlt]

end Visits

/-- An open cursor follows the machine over every sequence of moves, whatever was done with it
before. From a cursor just opened on rows that are all well formed, `next` visits each of them once,
in order, and none beyond the row count. -/
theorem navigation_refines (h : Opened payload c) :
    ∃ layout, Payload.scan payload = .ok layout ∧ c.rowCount ≤ layout.rowOffsets.length ∧
      (∀ row, layout.WellFormedRow payload row ↔
        ∃ cells, layout.rowCells payload row = .ok cells) ∧
      (∀ calls, (course c calls).cursor.isClosed = false → ∀ ms,
        reports (course c calls).cursor ms =
          steps c.rowCount (layout.rowCells payload) (course c calls).cursor.position ms) ∧
      ((∀ row, 1 ≤ row → row ≤ c.rowCount → layout.WellFormedRow payload row) → ∀ k,
        (c.afterNexts k).next.1 = .ok (decide (k < c.rowCount)) ∧
        (c.afterNexts k).position = min k c.rowCount ∧
        (1 ≤ min k c.rowCount →
          ∃ cells, layout.rowCells payload (c.afterNexts k).position = .ok cells ∧
            (c.afterNexts k).values = cells.map (·.raw))) := by
  obtain ⟨layout, hscan, hfresh⟩ := h.exists_layout
  refine ⟨layout, hscan, hfresh.rowCount_le, layout.wellFormedRow_iff payload, ?_, ?_⟩
  · intro calls hopen ms
    exact (hfresh.consistent.course calls).reports_eq_steps hopen ms
  · intro hrows k
    obtain ⟨-, hpos, hvalues⟩ := hfresh.afterNexts_spec hrows k
    refine ⟨hfresh.next_afterNexts hrows k, hpos, ?_⟩
    rw [hpos]
    exact hvalues

theorem navigation_refines_bad_row :
    ∃ (c : Cursor) (layout : Layout),
      Opened (Utf8.encode "\x7b\"status\":\"OK\",\"query_rows\":[[\x7b\"a\":7\x7d],3]\x7d") c ∧
      c.rowCount = 2 ∧ ∀ ms, reports c ms = steps 2 (layout.rowCells
        (Utf8.encode "\x7b\"status\":\"OK\",\"query_rows\":[[\x7b\"a\":7\x7d],3]\x7d"))
        c.position ms := by
  have hcount : (openPayload
      (Utf8.encode "\x7b\"status\":\"OK\",\"query_rows\":[[\x7b\"a\":7\x7d],3]\x7d")
      2).toOption.map (fun c => (c.rowCount, c.isClosed)) = some (2, false) := by decide +kernel
  obtain ⟨c, hc, hn⟩ := Option.map_eq_some_iff.mp hcount
  obtain ⟨hn, hopen⟩ := Prod.mk.inj hn
  have hopened : Opened _ c := .ofPayload 2 (eq_ok_of_toOption hc)
  obtain ⟨layout, -, -, -, hall, -⟩ := navigation_refines hopened
  rw [hn] at hall
  exact ⟨c, layout, hopened, hn, hall [] hopen⟩

end Cursor

end RemoteSql
