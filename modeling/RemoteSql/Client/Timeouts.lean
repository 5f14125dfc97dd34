import RemoteSql.Duration

/-!
# Timeouts

No time at all, and any time beyond a year, stand for waiting without end.
-/

namespace RemoteSql

structure Timeouts where
  connect : Duration := {}
  read : Duration := {}
  deriving DecidableEq, Repr

namespace Timeouts

/-- The longest time that is waited: 365 days. -/
def longest : Duration := .ofSeconds (86400 * 365)

/-- Whether a time stands for waiting without end. -/
def isInfinite (d : Duration) : Bool :=
  d.nanoseconds == 0 || decide (longest.nanoseconds < d.nanoseconds)

def ofMilliseconds (connect read : Nat) : Timeouts :=
  ⟨.ofMilliseconds connect, .ofMilliseconds read⟩

def fast : Timeouts := ⟨.ofSeconds 2, .ofSeconds 10⟩

def relaxed : Timeouts := ⟨.ofSeconds 30, .ofSeconds 300⟩

def describe (t : Timeouts) : String :=
  "AceQlTimeouts \x7b connect_timeout: " ++ t.connect.describe ++ ", read_timeout: " ++
    t.read.describe ++ " \x7d"

end Timeouts

end RemoteSql
