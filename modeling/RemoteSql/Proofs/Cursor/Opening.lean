import Mathlib
import RemoteSql.Proofs.Cursor.Move
import RemoteSql.Proofs.Fallible

/-!
# Cursors as they are opened

However a cursor is opened, its payload was scanned, the rows it counts have been found, and its
first row, if it has one, could be read and has named the columns.
-/

namespace RemoteSql

/-- The cells of a row of a scanned payload, counted from 1. -/
def Layout.rowCells (layout : Layout) (payload : Bytes) (row : Nat) : Except Error (List Cell) :=
  match layout.rowOffsets[row - 1]? with
  | none => .error (.protocol (.noRow row))
  | some offset => Row.read row (payload.drop offset)

namespace Cursor

/-- A cursor that has just been opened on a payload, which was at hand or came in a response. -/
inductive Opened (payload : Bytes) (c : Cursor) : Prop
  | ofPayload (rowCount : Nat) (h : openPayload payload rowCount = .ok c)
  | ofResponse (r : Response) (hplain : r.body.plain = .ok payload) (h : ofResponse r = .ok c)

/-- What holds of a cursor that has just been opened. -/
structure Fresh (payload : Bytes) (layout : Layout) (c : Cursor) : Prop where
  payload_eq : c.payload = some payload
  rowOffsets_eq : c.rowOffsets = layout.rowOffsets.toArray
  rowCount_le : c.rowCount ≤ layout.rowOffsets.length
  position_eq : c.position = 0
  values_eq : c.values = []
  columnNames_eq : 1 ≤ c.rowCount →
    ∃ cells, layout.rowCells payload 1 = .ok cells ∧ c.columnNames = cells.map (·.name)
  columnNames_nil : c.rowCount = 0 → c.columnNames = []

theorem readRow_eq {payload : Bytes} {layout : Layout} {c : Cursor} (hp : c.payload = some payload)
    (ho : c.rowOffsets = layout.rowOffsets.toArray) (row : Nat) :
    c.readRow row = layout.rowCells payload row := by
  have hget : c.rowOffsets[row - 1]? = layout.rowOffsets[row - 1]? := by
    rw [ho, List.getElem?_toArray]
  unfold readRow Layout.rowCells
  rw [hp, hget]
  cases layout.rowOffsets[row - 1]? <;> rfl

theorem fresh_of_ofLayout {payload : Bytes} {layout : Layout} {rowCount : Nat} {c : Cursor}
    (h : ofLayout payload layout rowCount = .ok c) : Fresh payload layout c := by
  unfold ofLayout at h
  dsimp only at h
  split at h
  · cases h
  · next hle =>
    have hle' : rowCount ≤ layout.rowOffsets.length := by omega
    split at h
    · next hzero =>
      cases h
      subst hzero
      exact ⟨rfl, rfl, hle', rfl, rfl, fun hpos => absurd hpos (by simp), fun _ => rfl⟩
    · next hzero =>
      obtain ⟨cells, hcells, rfl⟩ := exists_of_map_eq_ok h
      rw [readRow_eq rfl rfl] at hcells
      exact ⟨rfl, rfl, hle', rfl, rfl, fun _ => ⟨cells, hcells, rfl⟩,
        fun hn => absurd hn hzero⟩

theorem exists_ofLayout_of_ofPayload {payload : Bytes} {status : HttpStatus} {c : Cursor}
    (h : ofPayload payload status = .ok c) :
    ∃ layout rowCount, Payload.scan payload = .ok layout ∧
      ofLayout payload layout rowCount = .ok c := by
  unfold ofPayload at h
  split at h
  · cases h
  · next layout hscan =>
    obtain ⟨-, -, h⟩ := exists_of_bind_eq_ok h
    obtain ⟨rowCount, -, h⟩ := exists_of_bind_eq_ok h
    exact ⟨layout, rowCount, hscan, h⟩

theorem exists_layout_of_ofPayload {payload : Bytes} {status : HttpStatus} {c : Cursor}
    (h : ofPayload payload status = .ok c) :
    ∃ layout, Payload.scan payload = .ok layout ∧ Fresh payload layout c := by
  obtain ⟨layout, rowCount, hscan, h⟩ := exists_ofLayout_of_ofPayload h
  exact ⟨layout, hscan, fresh_of_ofLayout h⟩

/-- In whatever way a cursor is opened, it is made from the layout of its payload. -/
theorem Opened.exists_ofLayout_eq {payload : Bytes} {c : Cursor} (h : Opened payload c) :
    ∃ layout rowCount, Payload.scan payload = .ok layout ∧
      ofLayout payload layout rowCount = .ok c := by
  cases h with
  | ofPayload rowCount h =>
    obtain ⟨layout, hscan, h⟩ := exists_of_bind_eq_ok h
    obtain ⟨-, -, h⟩ := exists_of_bind_eq_ok h
    exact ⟨layout, rowCount, hscan, h⟩
  | ofResponse r hplain h =>
    rw [Cursor.ofResponse, hplain] at h
    exact exists_ofLayout_of_ofPayload h

theorem Opened.exists_layout {payload : Bytes} {c : Cursor} (h : Opened payload c) :
    ∃ layout, Payload.scan payload = .ok layout ∧ Fresh payload layout c := by
  obtain ⟨layout, rowCount, hscan, h⟩ := h.exists_ofLayout_eq
  exact ⟨layout, hscan, fresh_of_ofLayout h⟩

theorem wasNull_of_ofLayout {payload : Bytes} {layout : Layout} {rowCount : Nat} {c : Cursor}
    (h : ofLayout payload layout rowCount = .ok c) : c.wasNull = false := by
  unfold ofLayout at h
  dsimp only at h
  split at h
  · cases h
  · split at h
    · cases h
      rfl
    · obtain ⟨cells, -, rfl⟩ := exists_of_map_eq_ok h
      rfl

/-- No cell has been read when a cursor is opened. -/
theorem Opened.wasNull_eq {payload : Bytes} {c : Cursor} (h : Opened payload c) :
    c.wasNull = false := by
  obtain ⟨layout, rowCount, -, h⟩ := h.exists_ofLayout_eq
  exact wasNull_of_ofLayout h

theorem Fresh.isClosed_eq {payload : Bytes} {layout : Layout} {c : Cursor}
    (h : Fresh payload layout c) : c.isClosed = false := by
  simp [isClosed, h.payload_eq]

theorem goTo_cases (c : Cursor) (row : Nat) :
    (∃ cells, c.readRow row = .ok cells ∧ c.goTo row = (.ok true,
      { c with
        columnNames := if c.columnNames.isEmpty then cells.map (·.name) else c.columnNames
        values := cells.map (·.raw)
        position := row })) ∨
    ∃ e, c.readRow row = .error e ∧ c.goTo row = (.error e, { c with values := [] }) := by
  cases hr : c.readRow row with
  | ok cells =>
    refine Or.inl ⟨cells, rfl, ?_⟩
    rw [goTo, moveTo, hr]
    cases hnames : c.columnNames.isEmpty <;> simp [named]
  | error e =>
    refine Or.inr ⟨e, rfl, ?_⟩
    rw [goTo, moveTo, hr]

end Cursor

end RemoteSql
