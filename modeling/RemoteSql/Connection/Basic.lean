import RemoteSql.Client.Options
import RemoteSql.Connection.Settings
import RemoteSql.Cursor.Open
import RemoteSql.Session.Manager
import RemoteSql.Statement.Form
import RemoteSql.Statement.Parameter

/-!
# Connections

A connection runs its session's actions while it is open. Closing it and logging it out take effect
at once, whatever the server says to them, and each asks the server only once.
-/

namespace RemoteSql

inductive ConnectionState
  | open
  | closed
  | loggedOut
  deriving DecidableEq, Repr

structure Connection where
  session : Session
  options : ConnectionOptions
  state : ConnectionState := .open
  deriving DecidableEq, Repr

namespace Connection

variable (c : Connection)

def isClosed : Bool := c.state != .open

def ensureOpen : Except Error Unit := if c.isClosed then .error (.closed .connection) else .ok ()

/-- Runs an action whose answer holds nothing of interest. -/
def run (action : String) (param : Option String) : WireM Unit := do
  c.ensureOpen
  let _ ← c.session.getAction action param

def ask (action : String) (param : Option String) : WireM String := do
  c.ensureOpen
  let envelope ← c.session.getAction action param
  match envelope.result with
  | some result => return result
  | none => throw (.protocol (.noResult action))

def serverVersion : WireM String := c.ask "get_version" none

def commit : WireM Unit := c.run "commit" none

def rollback : WireM Unit := c.run "rollback" none

def setAutoCommit (on : Bool) : WireM Unit := c.run "set_auto_commit" (toString on)

def autoCommit : WireM Bool := do parseTruth (← c.ask "get_auto_commit" none)

def setReadOnly (on : Bool) : WireM Unit := c.run "set_read_only" (toString on)

def isReadOnly : WireM Bool := do parseTruth (← c.ask "is_read_only" none)

def setHoldability (h : Holdability) : WireM Unit := c.run "set_holdability" h.name

def holdability : WireM Holdability := do Holdability.parse (← c.ask "get_holdability" none)

def setIsolation (level : Isolation) : WireM Unit :=
  c.run "set_transaction_isolation_level" level.name

def isolation : WireM Isolation := do
  Isolation.parse (← c.ask "get_transaction_isolation_level" none)

/-- Another connection of the same session. -/
def duplicate : WireM Connection := do
  c.ensureOpen
  let s := c.session
  let session ← Manager.resume s.serverUrl s.database s.username s.sessionId
  return { session, options := c.options }

/-- The connection closed, and what closing it takes. -/
def close : Connection × WireM Unit :=
  if c.isClosed then (c, pure ())
  else ({ c with state := .closed }, do let _ ← c.session.getAction "close" none)

/-- The connection logged out, and what logging it out takes. -/
def logout : Connection × ManagerM Unit :=
  if c.state = .loggedOut then (c, pure ())
  else ({ c with state := .loggedOut }, Manager.logout c.session)

/-- Refuses a statement of blanks alone. -/
def requireSql (s : Statement) : Except Error Unit := require "sql" s.sql

/-- Runs a statement that changes data: the number of rows, and the slots with the values that a
procedure gave back. -/
def executeUpdate (s : Statement) (slots : Option Parameters) :
    WireM (Int × Option Parameters) := do
  c.ensureOpen
  requireSql s
  let envelope ← c.session.postAction (updateAction s.isProcedure) (s.form none)
  let slots ← match s.isProcedure, slots with
    | true, some slots => do
      let filled ← Parameters.reconcile envelope.outByIndex slots
      pure (some filled)
    | _, slots => pure slots
  return ((envelope.integer? "row_count").getD 0, slots)

def executeQuery (s : Statement) : WireM Response := do
  c.ensureOpen
  requireSql s
  let url ← c.session.actionUrl "execute_query" none
  Wire.postStream url (s.form (some c.options.gzipResult))

def queryCursor (s : Statement) : WireM Cursor := do
  Cursor.ofResponse (← c.executeQuery s)

def stateName : ConnectionState → String
  | .open => "Open"
  | .closed => "Closed"
  | .loggedOut => "LoggedOut"

def describe : String :=
  "Connection \x7b session: " ++ c.session.describe ++ ", state: " ++ stateName c.state ++
    ", .. \x7d"

end Connection

end RemoteSql
