import RemoteSql.Http.Wire
import RemoteSql.Statement.Parameter

/-!
# The form of a statement
-/

namespace RemoteSql

structure Statement where
  sql : String
  isPrepared : Bool := false
  isProcedure : Bool := false
  parameters : Parameters := []

/-- The action that runs a statement which changes data. -/
def updateAction (isProcedure : Bool) : String :=
  if isProcedure then "execute" else "execute_update"

namespace Statement

/-- The fields of one parameter. Only a procedure's parameters have a direction. -/
def parameterFields (isProcedure : Bool) (p : Parameter) : Form :=
  let n := toString p.index
  [("param_type_" ++ n, p.type), ("param_value_" ++ n, p.value.getD nullMarker)] ++
    if isProcedure then [("param_direction_" ++ n, p.direction.name)] else []

/-- The fields that say how a result should be written, for a statement that has one. -/
def resultFields : Option Bool → Form
  | none => []
  | some gzip => [("gzip_result", toString gzip), ("pretty_printing", "true")]

def form (s : Statement) (gzip? : Option Bool) : Form :=
  [("sql", s.sql), ("prepared_statement", toString s.isPrepared),
    ("stored_procedure", toString s.isProcedure)] ++ resultFields gzip? ++
    s.parameters.toList.flatMap (parameterFields s.isProcedure)

end Statement

end RemoteSql
