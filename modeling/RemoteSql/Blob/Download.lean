import RemoteSql.Blob.Progress
import RemoteSql.Session.Manager

/-!
# Blob download

A download hands on the body unread. Copying it into a sink looks before each read whether the
transfer was cancelled; a read that fails, even one that was merely interrupted, ends the copy.
-/

namespace RemoteSql

/-- A copy under way: what it writes to and how far it has come. -/
structure Copy where
  sink : Sink
  progress : Option Progress := none
  /-- Whether the caller cancels right after a write, by the octets that the sink holds. -/
  cancels : Nat → Bool := fun _ => false

namespace Copy

/-- The most octets that one read of a download takes. -/
def chunkSize : Nat := 65536

def isCancelled (c : Copy) : Bool := c.progress.any (·.cancelled)

def finish (c : Copy) (written : Nat) : Except Error Nat × Copy :=
  match c.sink.flush with
  | .error text => (.error (.localIo text), c)
  | .ok () => (.ok written, { c with progress := c.progress.map Progress.complete })

def put (c : Copy) (bs : Bytes) : Except Error Unit × Copy :=
  match c.sink.write bs with
  | (.error text, sink) => (.error (.localIo text), { c with sink })
  | (.ok (), sink) =>
    let note := fun p : Progress =>
      let p := if c.cancels sink.held.size then p.cancel else p
      p.record (UInt64.ofNat bs.length)
    (.ok (), { c with sink, progress := c.progress.map note })

def fill (c : Copy) (s : Source) (written : Nat) : Except Error Nat × Copy :=
  if c.isCancelled then (.error .cancelled, c)
  else
    match _h : s.read chunkSize with
    | (.error fault, _) => (.error (.reading fault), c)
    | (.ok [], _) => c.finish written
    | (.ok (b :: bs), s') =>
      match c.put (b :: bs) with
      | (.error e, c) => (.error e, c)
      | (.ok (), c) => fill c s' (written + (b :: bs).length)
termination_by s.pending.length
decreasing_by exact Source.read_lt _h (.inr ⟨b, bs, rfl⟩)

end Copy

namespace Session

def requireBlobId (blobId : String) : Except Error Unit :=
  if blobId.isEmpty then .error (.required "blob_id") else .ok ()

def download (s : Session) (blobId : String) : WireM Source := do
  requireBlobId blobId
  s.fetch "blob_download" [("blob_id", blobId)]

def readLength (text : String) : Except Error UInt64 :=
  match Decimal.readUnsigned? 64 (Text.trim text) with
  | some n => .ok (UInt64.ofNat n)
  | none => .error (.protocol (.blobLength text))

def blobLength (s : Session) (blobId : String) : WireM UInt64 := do
  requireBlobId blobId
  let envelope ← s.postAction "get_blob_length" [("blob_id", blobId)]
  match envelope.field? "length" with
  | some text => readLength text
  | none => throw (.protocol .noLength)

/-- Downloads a blob into a sink, and counts the octets. With progress, the length is asked for
first. -/
def downloadTo (s : Session) (blobId : String) (c : Copy) (w : Wire) :
    Except Error Nat × Copy × Wire :=
  let (begun, w) : Except Error Copy × Wire := match c.progress with
    | none => (.ok c, w)
    | some p =>
      let (r, w) := (s.blobLength blobId).run w
      (r.map fun length => { c with progress := some (p.begin length) }, w)
  match begun with
  | .error e => (.error e, c, w)
  | .ok c =>
    let (r, w) := (s.download blobId).run w
    match r with
    | .error e => (.error e, c, w)
    | .ok source =>
      let (r, c) := c.fill source 0
      (r, c, w)

end Session

end RemoteSql
