import RemoteSql.Error
import RemoteSql.Session.Store
import RemoteSql.Text.Basic
import RemoteSql.Text.Quoted
import RemoteSql.Url.Parser

/-!
# Sessions

A session names a server, a user and a database, and the ids that the server gave: one for the
session, which stays, and one for the connection, which is new each time the session is resumed.
-/

namespace RemoteSql

structure Session where
  serverUrl : String
  database : String
  username : String
  sessionId : String
  connectionId : String
  deriving DecidableEq, Repr

/-- The URL below a server's URL that segments lead to. -/
def serverPath (base : String) (segments : List String) : Except Error String :=
  match Url.parse base with
  | .error fault => .error (.transport (.malformedUrl fault))
  | .ok url =>
    if url.hasSegments then .ok (url.extend segments).render
    else .error (.configuration (.cannotBeBase base))

namespace Session

/-- What the session is cached under. -/
def key (s : Session) : SessionKey := ⟨s.serverUrl, s.username, s.database⟩

/-- The parts of an action's name between its slashes, the empty ones left out. -/
def actionSegments (action : String) : List String :=
  ((Text.splitAt '/' action.toList).filter fun part => !part.isEmpty).map String.ofList

/-- The path of an action below the server's URL, the parameter as one segment. -/
def segments (s : Session) (action : String) (param : Option String) : List String :=
  ["session", s.sessionId, "connection", s.connectionId] ++ actionSegments action ++ param.toList

def actionUrl (s : Session) (action : String) (param : Option String) : Except Error String :=
  serverPath s.serverUrl (s.segments action param)

def describe (s : Session) : String :=
  "Session \x7b server_url: " ++ Text.quoted s.serverUrl ++ ", database: " ++
    Text.quoted s.database ++ ", username: " ++ Text.quoted s.username ++
    ", session_id: \"***\", connection_id: " ++ Text.quoted s.connectionId ++ " \x7d"

end Session

end RemoteSql
