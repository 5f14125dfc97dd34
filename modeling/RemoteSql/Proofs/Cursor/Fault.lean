import Mathlib
import RemoteSql.Proofs.Cursor.Opening
import RemoteSql.Proofs.Http.Answer

/-!
# Faults of a payload

What can go wrong with the rows of a payload once it has been scanned is the payload's own fault:
the server has not reported it, and no caller has asked for it.
-/

namespace RemoteSql.Cursor

theorem incidental_cell (row : Nat) (v : Json) : FailsOnly Error.Incidental (Row.cell row v) := by
  unfold Row.cell
  split
  · exact .ok _
  · exact .error (Error.incidental_protocol _)
  · exact .error (Error.incidental_protocol _)

theorem incidental_cells (row : Nat) (v : Json) :
    FailsOnly Error.Incidental (Row.cells row v) := by
  unfold Row.cells
  split
  · exact .error (Error.incidental_protocol _)
  · exact .mapM (incidental_cell row) _

theorem incidental_readRow (row : Nat) (bs : Bytes) :
    FailsOnly Error.Incidental (Row.read row bs) := by
  unfold Row.read
  split
  · exact .error (Error.incidental_protocol _)
  · exact .error (Error.incidental_protocol _)
  · exact incidental_cells row _

theorem incidental_ofLayout (payload : Bytes) (layout : Layout) (rowCount : Nat) :
    FailsOnly Error.Incidental (ofLayout payload layout rowCount) := by
  unfold ofLayout
  dsimp only
  split
  · exact .error (Error.incidental_protocol _)
  · split
    · exact .ok _
    · rw [readRow_eq rfl rfl]
      unfold Layout.rowCells
      split
      · exact .error (Error.incidental_protocol _)
      · exact (incidental_readRow _ _).map _

theorem incidental_rowCount (e : Envelope) (received : Nat) :
    FailsOnly Error.Incidental (e.rowCount received) := by
  unfold Envelope.rowCount
  split
  · exact .ok _
  · split
    · exact .error (Error.incidental_protocol _)
    · exact .ok _

end RemoteSql.Cursor
