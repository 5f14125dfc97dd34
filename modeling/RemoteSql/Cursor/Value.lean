import RemoteSql.Calendar.Pattern
import RemoteSql.Cursor.Basic
import RemoteSql.Decimal.Binary

/-!
# Reading cells

Every reader looks the cell up in the current row and notes whether it is null. The text `NULL`
reads as no value, or as zero by the numeric readers; a text that equals it but for case is noted
as null and yet read as it stands.
-/

namespace RemoteSql.Cursor

variable (c : Cursor)

/-- The place of a column in the current row. -/
def place? : Column → Option Nat
  | .index 0 => none
  | .index (i + 1) => some i
  | .name s => c.columnNames.findIdx? (· == s)

def cellText (col : Column) : Except Error String :=
  match c.ensureOpen with
  | .error e => .error e
  | .ok () =>
    match (c.place? col).bind (c.values[·]?) with
    | some raw => .ok raw
    | none => .error (.invalidColumn (.unknown col))

/-- The text of a cell unless it is null, and the cursor that has noted whether it is. -/
def access (col : Column) : Except Error (Option String) × Cursor :=
  match c.cellText col with
  | .error e => (.error e, c)
  | .ok raw =>
    (.ok (if raw = nullMarker then none else some raw),
      { c with wasNull := Text.eqIgnoreCase raw nullMarker })

/-- Reads a cell by a rule for null and one for text. -/
def readWith {α : Type} (col : Column) (absent : α) (read : String → Except Error α) :
    Except Error α × Cursor :=
  match c.access col with
  | (.error e, c) => (.error e, c)
  | (.ok none, c) => (.ok absent, c)
  | (.ok (some raw), c) => (read raw, c)

def getString (col : Column) : Except Error (Option String) × Cursor := c.access col

/-- The error of a cell that is not of a type. -/
def notA (type : CellType) (col : Column) (raw : String) : Error :=
  .dataFormat (.notA type col raw)

def orNotA {α : Type} (type : CellType) (col : Column) (raw : String) : Option α → Except Error α
  | some a => .ok a
  | none => .error (notA type col raw)

/-- A whole number that fits a two's complement word. -/
def getSigned (type : CellType) (bits : Nat) (col : Column) : Except Error Int × Cursor :=
  c.readWith col 0 fun raw => orNotA type col raw (Decimal.readSigned? bits (Text.trim raw))

def getInt (col : Column) : Except Error Int × Cursor := c.getSigned .int 32 col

def getLong (col : Column) : Except Error Int × Cursor := c.getSigned .long 64 col

def getShort (col : Column) : Except Error Int × Cursor := c.getSigned .short 16 col

def getBinary (type : CellType) (f : Decimal.BinaryFormat) (col : Column) :
    Except Error Nat × Cursor :=
  c.readWith col 0 fun raw => orNotA type col raw (f.read? (Text.trim raw))

def getFloat (col : Column) : Except Error Nat × Cursor := c.getBinary .float Decimal.single col

def getDouble (col : Column) : Except Error Nat × Cursor := c.getBinary .double Decimal.double col

/-- Only the word `true`, in any case, is true. -/
def getBoolean (col : Column) : Except Error Bool × Cursor :=
  c.readWith col false fun raw => .ok (Text.eqIgnoreCase (Text.trim raw) "true")

/-- The timestamp that milliseconds since 1970 stand for. -/
def ofMillis (col : Column) (millis : Int) : Except Error Timestamp :=
  orNotA .timestamp col (toString millis) (Timestamp.ofEpochMillis? millis)

/-- A date, from milliseconds since 1970 or from its text. -/
def getDate (col : Column) : Except Error (Option Date) × Cursor :=
  c.readWith col none fun raw =>
    let raw := Text.trim raw
    match Decimal.readSigned? 64 raw with
    | some millis => (ofMillis col millis).map fun t => some t.date
    | none => (orNotA .date col raw (Date.parse? raw)).map some

def getTimestamp (col : Column) : Except Error (Option Timestamp) × Cursor :=
  c.readWith col none fun raw =>
    let raw := Text.trim raw
    match Decimal.readSigned? 64 raw with
    | some millis => (ofMillis col millis).map some
    | none => (orNotA .timestamp col raw (Timestamp.parse? raw)).map some

/-- The id under which a blob of the row can be downloaded. -/
def getBlobReference (col : Column) : Except Error (Option String) × Cursor := c.getString col

end RemoteSql.Cursor
