import RemoteSql.Cursor.Row
import RemoteSql.Payload.Layout
import RemoteSql.Text.Quoted

/-!
# Cursors over a result

A cursor keeps the payload and where each row begins, and decodes a row when it moves there.
Positions run from 0, before the first row, to one past the row count. A move that cannot decode
its row leaves the position and clears the values.
-/

namespace RemoteSql

structure Cursor where
  /-- The payload, until the cursor is closed. -/
  payload : Option Bytes
  rowOffsets : Array Nat
  rowCount : Nat
  columnTypes : List String
  columnNames : List String := []
  position : Nat := 0
  /-- The values of the current row; none before the first row and after the last. -/
  values : List String := []
  /-- Whether the column read last was null. -/
  wasNull : Bool := false

namespace Cursor

/-- The type names that a result gives for its columns. -/
def typesOf (fields : Json.Members) : List String :=
  (((fields.get? "column_types").bind Json.items?).getD []).filterMap Json.fieldText?

/-- The cells of a row, counted from 1. -/
def readRow (c : Cursor) (row : Nat) : Except Error (List Cell) :=
  match c.payload, c.rowOffsets[row - 1]? with
  | none, _ => .error (.closed .cursor)
  | some _, none => .error (.protocol (.noRow row))
  | some payload, some offset => Row.read row (payload.drop offset)

def named (c : Cursor) (cells : List Cell) : Cursor :=
  { c with columnNames := cells.map (·.name) }

/-- A cursor over a scanned payload. The columns are named by the first row. -/
def ofLayout (payload : Bytes) (layout : Layout) (rowCount : Nat) : Except Error Cursor :=
  let received := layout.rowOffsets.length
  if received < rowCount then .error (.protocol (.missingRows rowCount received))
  else
    let c : Cursor :=
      { payload := some payload
        rowOffsets := layout.rowOffsets.toArray
        rowCount
        columnTypes := typesOf layout.fields }
    if rowCount = 0 then .ok c else (c.readRow 1).map c.named

/-- A cursor over a payload at hand, of which the first `rowCount` rows are used. -/
def openPayload (payload : Bytes) (rowCount : Nat) : Except Error Cursor := do
  let layout ← Payload.scan payload
  let _ ← (Envelope.ofDocument layout.fields ⟨200, "OK"⟩).toExcept
  ofLayout payload layout rowCount

variable (c : Cursor)

def isClosed : Bool := c.payload.isNone

def isBeforeFirst : Bool := c.position == 0

def isAfterLast : Bool := c.position == c.rowCount + 1

def columnName (index : Nat) : Except Error String :=
  match (if index = 0 then none else c.columnNames[index - 1]?) with
  | some name => .ok name
  | none => .error (.invalidColumn (.unknown (.index index)))

/-- The first column of a name, counted from 1. -/
def findColumn (name : String) : Except Error Nat :=
  match c.columnNames.findIdx? (· == name) with
  | some i => .ok (i + 1)
  | none => .error (.invalidColumn (.unknown (.name name)))

def ensureOpen : Except Error Unit := if c.isClosed then .error (.closed .cursor) else .ok ()

/-- Decodes a row and makes it the current one. The first row ever decoded names the columns. -/
def moveTo (row : Nat) : Except Error Unit × Cursor :=
  match c.readRow row with
  | .error e => (.error e, { c with values := [] })
  | .ok cells =>
    let c := if c.columnNames.isEmpty then c.named cells else c
    (.ok (), { c with values := cells.map (·.raw), position := row })

def goTo (row : Nat) : Except Error Bool × Cursor :=
  match c.moveTo row with
  | (.ok (), c) => (.ok true, c)
  | (.error e, c) => (.error e, c)

/-- Moves where no row is decoded. -/
def rest (position : Nat) : Cursor := { c with position, values := [] }

/-- Moves on by one row, unless the last one is current or passed. -/
def next : Except Error Bool × Cursor :=
  match c.ensureOpen with
  | .error e => (.error e, c)
  | .ok () => if c.rowCount ≤ c.position then (.ok false, c) else c.goTo (c.position + 1)

/-- Moves back by one row, but never before the first. -/
def previous : Except Error Bool × Cursor :=
  match c.ensureOpen with
  | .error e => (.error e, c)
  | .ok () => if c.position ≤ 1 then (.ok false, c) else c.goTo (c.position - 1)

/-- Moves to a row, or before the first one for 0. -/
def absolute (row : Int) : Except Error Bool × Cursor :=
  match c.ensureOpen with
  | .error e => (.error e, c)
  | .ok () =>
    if row < 0 ∨ (c.rowCount : Int) < row then (.ok false, c)
    else if row = 0 then (.ok true, c.rest 0)
    else c.goTo row.toNat

def first : Except Error Bool × Cursor := c.absolute 1

def last : Except Error Bool × Cursor := c.absolute c.rowCount

def beforeFirst : Except Error Unit × Cursor :=
  match c.ensureOpen with
  | .error e => (.error e, c)
  | .ok () => (.ok (), c.rest 0)

def afterLast : Except Error Unit × Cursor :=
  match c.ensureOpen with
  | .error e => (.error e, c)
  | .ok () => (.ok (), c.rest (c.rowCount + 1))

/-- Lets go of the payload. Closing again changes nothing. -/
def close : Cursor := { c with payload := none, values := [], rowOffsets := #[] }

def describe : String :=
  "ResultCursor \x7b row_count: " ++ toString c.rowCount ++ ", position: " ++
    toString c.position ++ ", columns: " ++ Text.quotedList c.columnNames ++ ", closed: " ++
    toString c.isClosed ++ " \x7d"

end Cursor

end RemoteSql
