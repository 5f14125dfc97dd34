import RemoteSql.Blob.Progress
import RemoteSql.Session.Manager

/-!
# Blob upload

The transport reads the blob while it sends it. Each read first looks whether the transfer was
cancelled, and the octets that it yields are counted.
-/

namespace RemoteSql

/-- What the transport reads a blob from. -/
structure UploadReader where
  source : Source
  progress : Option Progress := none
  /-- Whether the caller cancels right after a read, by the octets served until then and by whether
  the read met the end. -/
  cancels : Nat → Bool → Bool := fun _ _ => false

namespace UploadReader

def isCancelled (r : UploadReader) : Bool := r.progress.any (·.cancelled)

/-- One read. A cancelled transfer reads nothing more. -/
def read (r : UploadReader) (size : Nat) : Except ReadFault Bytes × UploadReader :=
  if r.isCancelled then (.error .withdrawn, r)
  else
    match r.source.read size with
    | (.error fault, source) => (.error fault, { r with source })
    | (.ok bs, source) =>
      let note := fun p : Progress =>
        let p := if r.cancels source.served bs.isEmpty then p.cancel else p
        p.record (UInt64.ofNat bs.length)
      (.ok bs, { r with source, progress := r.progress.map note })

theorem read_lt {r r' : UploadReader} {size : Nat} {b : UInt8} {bs : Bytes}
    (h : r.read size = (.ok (b :: bs), r')) :
    r'.source.pending.length < r.source.pending.length := by
  unfold read at h
  split at h
  · simp at h
  · split at h
    · simp at h
    · next out source heq =>
      simp only [Prod.mk.injEq, Except.ok.injEq] at h
      obtain ⟨rfl, rfl⟩ := h
      exact Source.read_lt heq (.inr ⟨b, bs, rfl⟩)

/-- Reads as a transport does, up to the end or until it has enough: what it received, and what a
read failed with. -/
def send (r : UploadReader) (size : Nat) (enough : Option Nat) (received : Array UInt8) :
    Array UInt8 × Option ReadFault × UploadReader :=
  if enough.any (· ≤ received.size) then (received, none, r)
  else
    match _h : r.read size with
    | (.ok [], r') => (received, none, r')
    | (.ok (b :: bs), r') => send r' size enough (received ++ (b :: bs))
    | (.error fault, r') => (received, some fault, r')
termination_by r.source.pending.length
decreasing_by exact read_lt _h

end UploadReader

namespace Wire

/-- Sends a form with a file, read from a reader, and reads the whole answer. A read that fails
fails the request. -/
def postFile (url : String) (form : Form) (fileField : String) (fileName : FreshName)
    (length : Nat) (r : UploadReader) (w : Wire) : Except Error Reply × UploadReader × Wire :=
  let exchange := w.upcoming
  let (received, fault?, r) := r.send exchange.uploadBuffer exchange.uploadLimit #[]
  let answer := match fault? with
    | some fault => .error (.reading fault)
    | none => replyOf exchange.answer
  (answer, r, w.after (.multipart url form fileField fileName length received.toList))

end Wire

namespace Session

/-- What an upload came to: its outcome, the progress after it, and the wire. -/
structure UploadOutcome where
  result : Except Error Unit
  progress : Option Progress
  wire : Wire

/-- The outcome of an upload that was sent. When it failed and is cancelled by now, it failed for
being cancelled. -/
def settleUpload (answer : Except Error Reply) (progress : Option Progress) :
    Except Error Unit × Option Progress :=
  match answer.bind Reply.document with
  | .ok _ => (.ok (), progress.map Progress.complete)
  | .error e => (.error (if progress.any (·.cancelled) then .cancelled else e), progress)

/-- Uploads a blob of a declared length under an id. -/
def upload (s : Session) (blobId : String) (length : UInt64) (r : UploadReader) (w : Wire) :
    UploadOutcome :=
  if blobId.isEmpty then ⟨.error (.required "blob_id"), r.progress, w⟩
  else
    let r := { r with progress := r.progress.map fun p : Progress => p.begin length }
    if r.isCancelled then ⟨.error .cancelled, r.progress, w⟩
    else
      match s.actionUrl "blob_upload" none with
      | .error e => ⟨.error e, r.progress, w⟩
      | .ok url =>
        let (answer, r, w) :=
          w.postFile url [("blob_id", blobId)] "file" ⟨".blob"⟩ length.toNat r
        let (result, progress) := settleUpload answer r.progress
        ⟨result, progress, w⟩

end Session

end RemoteSql
