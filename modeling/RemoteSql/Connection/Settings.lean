import RemoteSql.Error
import RemoteSql.Text.Basic

/-!
# Settings of a connection

The words for transaction isolation and holdability, and the server's two words for a truth value.
-/

namespace RemoteSql

/-- How far a transaction is kept apart from others. -/
inductive Isolation
  | none
  | readUncommitted
  | readCommitted
  | repeatableRead
  | serializable
  deriving DecidableEq, Repr

namespace Isolation

def name : Isolation → String
  | .none => "transaction_none"
  | .readUncommitted => "transaction_read_uncommitted"
  | .readCommitted => "transaction_read_committed"
  | .repeatableRead => "transaction_repeatable_read"
  | .serializable => "transaction_serializable"

def all : List Isolation :=
  [.none, .readUncommitted, .readCommitted, .repeatableRead, .serializable]

def parse (s : String) : Except Error Isolation :=
  let word := Text.trim s
  match all.find? (·.name == word) with
  | some level => .ok level
  | .none => .error (.protocol (.unknownIsolation word))

end Isolation

/-- What becomes of open cursors when a transaction is committed. -/
inductive Holdability
  | hold
  | close
  deriving DecidableEq, Repr

namespace Holdability

def name : Holdability → String
  | .hold => "hold_cursors_over_commit"
  | .close => "close_cursors_at_commit"

def all : List Holdability := [.hold, .close]

def parse (s : String) : Except Error Holdability :=
  let word := Text.trim s
  match all.find? (·.name == word) with
  | some h => .ok h
  | none => .error (.protocol (.unknownHoldability word))

end Holdability

/-- The truth value that a text names in any case, blanks around it apart. -/
def parseTruth (s : String) : Except Error Bool :=
  let word := Text.trim s
  if Text.eqIgnoreCase word "true" then .ok true
  else if Text.eqIgnoreCase word "false" then .ok false
  else .error (.protocol (.notBoolean word))

end RemoteSql
