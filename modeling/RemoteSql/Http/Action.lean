import RemoteSql.Http.Wire
import RemoteSql.Session.Basic

/-!
# Actions of a session

Every action has a URL of its own below the session's. The whole answer is read, and only the
document of a success gets through.
-/

namespace RemoteSql

def Reply.document (r : Reply) : Except Error Envelope :=
  let e := Envelope.ofReply r
  e.toExcept.map fun _ => e

namespace Session

/-- Runs an action without a form, its parameter as one more segment. -/
def getAction (s : Session) (action : String) (param : Option String) : WireM Envelope := do
  let url ← s.actionUrl action param
  let reply ← Wire.get url
  reply.document

def postAction (s : Session) (action : String) (form : Form) : WireM Envelope := do
  let url ← s.actionUrl action none
  let reply ← Wire.post url form
  reply.document

/-- Runs an action with a form and hands on what the answer holds, unread, if the status is a
success. -/
def fetch (s : Session) (action : String) (form : Form) : WireM Source := do
  let url ← s.actionUrl action none
  let response ← Wire.postStream url form
  if response.isSuccess then return response.body
  let reply ← response.readReply
  throw (Envelope.failureOf reply)

end Session

end RemoteSql
