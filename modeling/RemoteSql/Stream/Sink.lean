import RemoteSql.Bytes

/-!
# Sinks of octets

A sink holds what was written to it. Of each write it takes some octets from the front, as many as
`takes` says; when these are not all, the write fails. Flushing may fail too.
-/

namespace RemoteSql

structure Sink where
  held : Array UInt8 := #[]
  /-- How many octets the sink takes of a write, by the number it holds and the size of the
  write. -/
  takes : Nat → Nat → Nat := fun _ size => size
  /-- What a write that is not taken whole fails with. -/
  fullText : String := "no space left on device"
  /-- What flushing fails with. -/
  flushFault : Option String := none

namespace Sink

def write (w : Sink) (bs : Bytes) : Except String Unit × Sink :=
  let taken := w.takes w.held.size bs.length
  if bs.length ≤ taken then (.ok (), { w with held := w.held ++ bs })
  else (.error w.fullText, { w with held := w.held ++ bs.take taken })

def flush (w : Sink) : Except String Unit :=
  match w.flushFault with
  | none => .ok ()
  | some text => .error text

def toBytes (w : Sink) : Bytes := w.held.toList

/-- A sink that takes no write which would bring it past `limit` octets. -/
def limited (limit : Nat) : Sink where
  takes := fun held size => if held + size ≤ limit then size else 0

/-- A sink that takes octets until it holds `limit`. -/
def filling (limit : Nat) : Sink where
  takes := fun held size => min size (limit - held)

end Sink

end RemoteSql
