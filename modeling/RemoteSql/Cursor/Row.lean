import RemoteSql.Envelope

/-!
# Rows of a result

A row is an object whose one member holds the cells, or the cells themselves; a cell is an object
whose one member is the column's name and value. Of several members the first by name counts. A
cell keeps the text of its value, so no digit of a number is lost.
-/

namespace RemoteSql

/-- A cell: the name of its column and the text of its value. -/
structure Cell where
  name : String
  raw : String
  deriving DecidableEq, Repr

namespace Row

def cell (row : Nat) : Json → Except Error Cell
  | .object ((name, value) :: _) => .ok ⟨name, value.fieldText?.getD nullMarker⟩
  | .object [] => .error (.protocol (.emptyCell row))
  | _ => .error (.protocol (.cellShape row))

def cellValues? : Json → Option (List Json)
  | .object ((_, .array values) :: _) => some values
  | .array values => some values
  | _ => none

def cells (row : Nat) (v : Json) : Except Error (List Cell) :=
  match cellValues? v with
  | none => .error (.protocol (.rowShape row))
  | some values => values.mapM (cell row)

/-- The cells of the row that begins where the given octets do. -/
def read (row : Nat) (bs : Bytes) : Except Error (List Cell) :=
  match Json.lead bs with
  | .nothing => .error (.protocol (.noRow row))
  | .malformed => .error (.protocol .invalidJson)
  | .value v => cells row v

end Row

end RemoteSql
