import RemoteSql.Json.Record

/-!
# Names of tables
-/

namespace RemoteSql

structure TableName where
  name : String
  tableType : Option String := none
  schema : Option String := none
  catalog : Option String := none
  deriving DecidableEq, Repr

namespace TableName

/-- The name, after its schema if that is known. -/
def display (t : TableName) : String :=
  match t.schema with
  | some schema => schema ++ "." ++ t.name
  | none => t.name

def isBare (t : TableName) : Bool := t == { name := t.name }

def ofRecord? (r : Record) : Option TableName := do
  let optionalText := Json.readOptional? Json.parseText?
  let name ← r.field 0 "name" Json.parseText? none
  let tableType ← r.field 1 "tableType" optionalText (some none)
  let schema ← r.field 2 "schema" optionalText (some none)
  let catalog ← r.field 3 "catalog" optionalText (some none)
  return { name, tableType, schema, catalog }

def read? (bs : Bytes) : Option TableName := Record.parse? 4 ofRecord? bs

def ofJson? (v : Json) : Option TableName := (Record.ofJson? v).bind (Record.read? 4 ofRecord?)

def toJson (t : TableName) : Json :=
  .object <| ("name", .string t.name) ::
    Json.optionalMember "tableType" (t.tableType.map .string) ++
    Json.optionalMember "schema" (t.schema.map .string) ++
    Json.optionalMember "catalog" (t.catalog.map .string)

end TableName

end RemoteSql
