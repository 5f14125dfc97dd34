import RemoteSql.Cursor.Basic
import RemoteSql.Gzip.Plain
import RemoteSql.Http.Response

/-!
# Opening a cursor on a response

The payload is read to its end and scanned. A payload that cannot be scanned is a protocol error,
except when the HTTP status already says that the request failed.
-/

namespace RemoteSql

/-- The row count that a result declares, or the number of rows received. -/
def Envelope.rowCount (e : Envelope) (received : Nat) : Except Error Nat :=
  match e.integer? "row_count" with
  | none => .ok received
  | some count =>
    if count < 0 then .error (.protocol (.negativeRowCount count)) else .ok count.toNat

namespace Cursor

/-- A cursor over the octets of a payload that came with a status. -/
def ofPayload (payload : Bytes) (status : HttpStatus) : Except Error Cursor :=
  match Payload.scan payload with
  | .error e =>
    .error (if status.isSuccess then e else .server (Envelope.httpFailureDetail status) status)
  | .ok layout => do
    let envelope := Envelope.ofDocument layout.fields status
    let _ ← envelope.toExcept
    let rowCount ← envelope.rowCount layout.rowOffsets.length
    ofLayout payload layout rowCount

def ofResponse (r : Response) : Except Error Cursor :=
  match r.body.plain with
  | .error fault => .error (.reading fault)
  | .ok payload => ofPayload payload r.status

end Cursor

end RemoteSql
