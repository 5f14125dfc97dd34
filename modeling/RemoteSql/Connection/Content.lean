import RemoteSql.Blob.Download
import RemoteSql.Blob.Upload
import RemoteSql.Connection.Basic
import RemoteSql.Metadata.Queries

/-!
# Blobs and metadata of a connection

What a session does with blobs and metadata, a connection does while it is open. A connection that
is not open sends nothing and touches neither sink nor progress.
-/

namespace RemoteSql.Connection

variable (c : Connection)

/-- Work of the session, if the connection is open. -/
def whileOpen {α : Type} (work : Session → WireM α) : WireM α := do
  c.ensureOpen
  work c.session

def download (blobId : String) : WireM Source := c.whileOpen fun s => s.download blobId

def blobLength (blobId : String) : WireM UInt64 := c.whileOpen fun s => s.blobLength blobId

def downloadTo (blobId : String) (copy : Copy) (w : Wire) : Except Error Nat × Copy × Wire :=
  match c.ensureOpen with
  | .error e => (.error e, copy, w)
  | .ok () => c.session.downloadTo blobId copy w

def upload (blobId : String) (length : UInt64) (r : UploadReader) (w : Wire) :
    Session.UploadOutcome :=
  match c.ensureOpen with
  | .error e => ⟨.error e, r.progress, w⟩
  | .ok () => c.session.upload blobId length r w

def databaseMetadata : WireM Json.Members := c.whileOpen Session.databaseMetadata

def tableNames (tableType : Option String) : WireM (List TableName) :=
  c.whileOpen fun s => s.tableNames tableType

def table (tableName : String) : WireM Json.Members := c.whileOpen fun s => s.table tableName

def schema (format tableName : Option String) : WireM Source :=
  c.whileOpen fun s => s.schema format tableName

def schemaTo (format tableName : Option String) (sink : Sink) (w : Wire) :
    Except Error Nat × Sink × Wire :=
  match c.ensureOpen with
  | .error e => (.error e, sink, w)
  | .ok () => c.session.schemaTo format tableName sink w

end RemoteSql.Connection
