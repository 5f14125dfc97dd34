import RemoteSql.Http.Action
import RemoteSql.Metadata.TableName
import RemoteSql.Text.Lowercase

/-!
# Metadata of the database

Descriptions come as documents, from which the status is left out. The schema comes as a text in
one of two formats, unread.
-/

namespace RemoteSql

/-- The document of a success without its status. -/
def Envelope.content (e : Envelope) : Json.Members := SortedMap.erase (e.document.getD []) "status"

/-- The tables that a document lists; a document that says nothing about tables lists none. -/
def TableName.listed? (document : Json.Members) : Option (List TableName) :=
  match document.get? "tableNames" with
  | none => some []
  | some (.array entries) => entries.mapM ofJson?
  | some _ => none

namespace Session

def databaseMetadata (s : Session) : WireM Json.Members := do
  return (← s.getAction "metadata_query/get_db_metadata" none).content

def tableNames (s : Session) (tableType : Option String) : WireM (List TableName) := do
  let form := (tableType.map fun type => ("table_type", type)).toList
  let envelope ← s.postAction "metadata_query/get_table_names" form
  match TableName.listed? envelope.content with
  | some tables => return tables
  | none => throw (.protocol .invalidJson)

def table (s : Session) (tableName : String) : WireM Json.Members := do
  if tableName.isEmpty then throw (.required "table_name")
  return (← s.postAction "metadata_query/get_table" [("table_name", tableName)]).content

/-- The formats that a schema is written in. -/
def schemaFormats : List String := ["html", "text"]

/-- The form that asks for a schema. Names of tables are in lower case. -/
def schemaForm (format : String) (tableName : Option String) : Form :=
  ("format", format) :: (tableName.map fun name => ("table_name", Text.toLowercase name)).toList

/-- The schema of the database or of a table, in the first format if none is named. -/
def schema (s : Session) (format tableName : Option String) : WireM Source := do
  let format := format.getD "html"
  if !schemaFormats.contains format then throw (.configuration (.schemaFormat format))
  s.fetch "metadata_query/db_schema_download" (schemaForm format tableName)

/-- Copies the schema into a sink, and counts the octets. -/
def schemaTo (s : Session) (format tableName : Option String) (sink : Sink) (w : Wire) :
    Except Error Nat × Sink × Wire :=
  let (r, w) := (s.schema format tableName).run w
  match r with
  | .error e => (.error e, sink, w)
  | .ok source =>
    let (r, sink) := source.drainInto sink
    (r, sink, w)

end Session

end RemoteSql
