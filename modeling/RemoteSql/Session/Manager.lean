import RemoteSql.Http.Action
import RemoteSql.Session.Store

/-!
# Login, resumption and logout

A login first tries the session id that is cached for its server, user and database; only when the
server refuses that does it send the password. A logout reaches the server once for each session;
logging in anew makes the session one that can be logged out again.
-/

namespace RemoteSql

/-- What logins share: the wire, the cache, and the sessions already logged out, each by its server
and its id. -/
structure Manager where
  wire : Wire := {}
  store : SessionStore := []
  ended : List (String × String) := []

abbrev ManagerM := ExceptT Error (StateM Manager)

def clientVersion : String := "aceql-link v0.3.0"

def require (name value : String) : Except Error Unit :=
  if Text.isAllBlank value then .error (.required name) else .ok ()

/-- A field that an answer has to give. -/
def Envelope.requiredField (e : Envelope) (field : String) : Except Error String :=
  match (e.field? field).filter (· != "") with
  | some value => .ok value
  | none => .error (.protocol (.noField field))

namespace Manager

def onWire {α : Type} (x : WireM α) : ManagerM α := fun m =>
  let (r, wire) := x.run m.wire
  (r, { m with wire })

def loginForm (password : String) : Form :=
  [("password", password), ("client_version", clientVersion)]

def sessionOf (serverUrl database username : String) (r : Reply) : Except Error Session :=
  let e := Envelope.ofReply r
  match e.verdict with
  | .failure detail => .error (.authentication detail r.status.code)
  | .success _ => do
    let sessionId ← e.requiredField "session_id"
    let connectionId ← e.requiredField "connection_id"
    return { serverUrl, database, username, sessionId, connectionId }

def passwordLogin (serverUrl database username password : String) : WireM Session := do
  let url ← serverPath serverUrl ["database", database, "username", username, "login"]
  let reply ← Wire.post url (loginForm password)
  sessionOf serverUrl database username reply

/-- Takes up a session by its id, with a connection of its own. -/
def resume (serverUrl database username sessionId : String) : WireM Session := do
  require "server_url" serverUrl
  require "session_id" sessionId
  let url ← serverPath serverUrl ["session", sessionId, "get_connection"]
  let reply ← Wire.get url
  let envelope ← reply.document
  let connectionId ← envelope.requiredField "connection_id"
  return { serverUrl, database, username, sessionId, connectionId }

def freshLogin (serverUrl database username password : String) : ManagerM Session := do
  let session ← onWire (passwordLogin serverUrl database username password)
  modify fun m => { m with
    ended := m.ended.erase (session.serverUrl, session.sessionId)
    store := m.store.set ⟨serverUrl, username, database⟩ session.sessionId }
  return session

/-- Logs in, by way of the cached session if there is one that the server does not refuse. -/
def login (serverUrl database username password : String) : ManagerM Session := do
  require "server_url" serverUrl
  require "database" database
  require "username" username
  let key : SessionKey := ⟨serverUrl, username, database⟩
  match (← get).store.find? key with
  | none => freshLogin serverUrl database username password
  | some sessionId =>
    tryCatch (onWire (resume serverUrl database username sessionId)) fun e =>
      match e with
      | .server _ _ => do
        modify fun m => { m with store := m.store.remove key }
        freshLogin serverUrl database username password
      | e => throw e

/-- Ends a session. A session that has already ended is left alone; else it leaves the cache before
the server is asked. -/
def logout (s : Session) : ManagerM Unit := do
  let mark := (s.serverUrl, s.sessionId)
  if (← get).ended.contains mark then return ()
  modify fun m => { m with ended := mark :: m.ended, store := m.store.remove s.key }
  let _ ← onWire (s.getAction "logout" none)

end Manager

end RemoteSql
