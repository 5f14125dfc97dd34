import Mathlib
import RemoteSql.Connection.Content

/-!
# Operations of a connection

What a connection is asked for while it is open, besides another connection of its session: actions,
statements, blobs and metadata. Each is work on the wire; of what it returns, only whether it failed
is kept.
-/

namespace RemoteSql.Connection

inductive Operation
  | run (action : String) (param : Option String)
  | ask (action : String) (param : Option String)
  | serverVersion
  | commit
  | rollback
  | setAutoCommit (on : Bool)
  | autoCommit
  | setReadOnly (on : Bool)
  | isReadOnly
  | setHoldability (h : Holdability)
  | holdability
  | setIsolation (level : Isolation)
  | isolation
  | executeUpdate (s : Statement) (slots : Option Parameters)
  | executeQuery (s : Statement)
  | queryCursor (s : Statement)
  | download (blobId : String)
  | blobLength (blobId : String)
  | downloadTo (blobId : String) (copy : Copy)
  | upload (blobId : String) (length : UInt64) (reader : UploadReader)
  | databaseMetadata
  | tableNames (tableType : Option String)
  | table (tableName : String)
  | schema (format tableName : Option String)
  | schemaTo (format tableName : Option String) (sink : Sink)

def Operation.work (c : Connection) : Operation → WireM Unit
  | .run action param => c.run action param
  | .ask action param => discard (c.ask action param)
  | .serverVersion => discard c.serverVersion
  | .commit => c.commit
  | .rollback => c.rollback
  | .setAutoCommit on => c.setAutoCommit on
  | .autoCommit => discard c.autoCommit
  | .setReadOnly on => c.setReadOnly on
  | .isReadOnly => discard c.isReadOnly
  | .setHoldability h => c.setHoldability h
  | .holdability => discard c.holdability
  | .setIsolation level => c.setIsolation level
  | .isolation => discard c.isolation
  | .executeUpdate s slots => discard (c.executeUpdate s slots)
  | .executeQuery s => discard (c.executeQuery s)
  | .queryCursor s => discard (c.queryCursor s)
  | .download blobId => discard (c.download blobId)
  | .blobLength blobId => discard (c.blobLength blobId)
  | .downloadTo blobId copy => fun w =>
    let (result, _, w) := c.downloadTo blobId copy w
    (result.map fun _ => (), w)
  | .upload blobId length reader => fun w =>
    let outcome := c.upload blobId length reader w
    (outcome.result, outcome.wire)
  | .databaseMetadata => discard c.databaseMetadata
  | .tableNames tableType => discard (c.tableNames tableType)
  | .table tableName => discard (c.table tableName)
  | .schema format tableName => discard (c.schema format tableName)
  | .schemaTo format tableName sink => fun w =>
    let (result, _, w) := c.schemaTo format tableName sink w
    (result.map fun _ => (), w)

end RemoteSql.Connection
