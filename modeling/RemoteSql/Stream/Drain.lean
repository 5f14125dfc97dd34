import RemoteSql.Stream.Sink
import RemoteSql.Stream.Source

/-!
# Reading to the end

Both loops try an interrupted read again. One gathers what the source yields, the other copies it
into a sink; a failure of the source is the network's, one of the sink is local.
-/

namespace RemoteSql

namespace Source

/-- The size of the buffer that these loops read into. -/
def bufferSize : Nat := 8192

/-- Reads to the end and gathers the octets; with them, what the source failed with. -/
def gather (s : Source) (done : Array UInt8) : Bytes × Option ReadFault :=
  match _h : s.read bufferSize with
  | (.ok [], _) => (done.toList, none)
  | (.ok (b :: bs), s') => gather s' (done ++ (b :: bs))
  | (.error .interrupted, s') => gather s' done
  | (.error fault, _) => (done.toList, some fault)
termination_by s.pending.length
decreasing_by
  · exact read_lt _h (.inr ⟨b, bs, rfl⟩)
  · exact read_lt _h (.inl rfl)

def readToEnd (s : Source) : Except ReadFault Bytes :=
  match s.gather #[] with
  | (bs, none) => .ok bs
  | (_, some fault) => .error fault

/-- Copies a source into a sink, and counts the octets. -/
def drain (s : Source) (w : Sink) (total : Nat) : Except Error Nat × Sink :=
  match _h : s.read bufferSize with
  | (.ok [], _) =>
    match w.flush with
    | .ok () => (.ok total, w)
    | .error text => (.error (.localIo text), w)
  | (.ok (b :: bs), s') =>
    match w.write (b :: bs) with
    | (.ok (), w) => drain s' w (total + (b :: bs).length)
    | (.error text, w) => (.error (.localIo text), w)
  | (.error .interrupted, s') => drain s' w total
  | (.error fault, _) => (.error (.reading fault), w)
termination_by s.pending.length
decreasing_by
  · exact read_lt _h (.inr ⟨b, bs, rfl⟩)
  · exact read_lt _h (.inl rfl)

def drainInto (s : Source) (w : Sink) : Except Error Nat × Sink := drain s w 0

end Source

end RemoteSql
