/-!
# Column selectors
-/

namespace RemoteSql

/-- A column by its position, counted from 1, or by its name. -/
inductive Column
  | index (n : Nat)
  | name (s : String)
  deriving DecidableEq, Repr

def Column.text : Column → String
  | .index n => toString n
  | .name s => s

inductive CellType
  | int
  | long
  | short
  | float
  | double
  | date
  | timestamp
  deriving DecidableEq, Repr

def CellType.name : CellType → String
  | .int => "int"
  | .long => "long"
  | .short => "short"
  | .float => "float"
  | .double => "double"
  | .date => "date"
  | .timestamp => "timestamp"

end RemoteSql
