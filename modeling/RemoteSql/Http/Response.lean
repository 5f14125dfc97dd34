import RemoteSql.Error
import RemoteSql.Stream.Drain
import RemoteSql.Text.Basic
import RemoteSql.Text.Quoted
import RemoteSql.Text.Utf8

/-!
# Responses

A response is still to be read; when it has been, to its end, it is a reply.
-/

namespace RemoteSql

/-- A response that has been read to its end: its text without the blanks around it, and its
status. -/
structure Reply where
  body : String
  status : HttpStatus
  deriving DecidableEq, Repr

def Reply.isSuccess (r : Reply) : Bool := r.status.isSuccess

structure Response where
  body : Source
  status : HttpStatus

namespace Response

def isSuccess (r : Response) : Bool := r.status.isSuccess

/-- Reads the body to its end. Octets that are not UTF-8 are replaced, and blanks at either end
dropped. -/
def readReply (r : Response) : Except Error Reply :=
  match r.body.readToEnd with
  | .ok bs => .ok ⟨Text.trim (Utf8.decodeLossy bs), r.status⟩
  | .error fault => .error (.reading fault)

def describe (r : Response) : String :=
  "HttpStream \x7b status_code: " ++ toString r.status.code ++ ", status_message: " ++
    Text.quoted r.status.phrase ++ ", .. \x7d"

end Response

end RemoteSql
