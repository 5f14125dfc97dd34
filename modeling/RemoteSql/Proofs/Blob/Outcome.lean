import Mathlib
import RemoteSql.Proofs.Blob.Progress
import RemoteSql.Proofs.Blob.Upload
import RemoteSql.Proofs.Connection.Classification

/-!
# What an upload comes to

A transport gets at the blob through its reader alone: it reads as often and as much as it likes,
and the caller may cancel at any moment. Whatever the transport returns, the upload succeeds exactly
if the server has confirmed it. A failure that finds the upload cancelled is put down to that, and
the percentage tells a confirmed upload from every other.
-/

namespace RemoteSql

namespace UploadReader

/-- The upload has a progress, which does not report that it is complete. -/
def Unconfirmed (r : UploadReader) : Prop := ∃ p, r.progress = some p ∧ p.percent ≤ 99

variable {r : UploadReader}

theorem unconfirmed_begun {p : Progress} (hp : r.progress = some p) (length : UInt64) :
    (r.begun length).Unconfirmed := by
  refine ⟨p.begin length, progress_begun hp length, ?_⟩
  simp [Progress.begin]

theorem percent_noted_le {p : Progress} (h : p.percent ≤ 99) (source : Source) (bs : Bytes) :
    (r.noted source bs p).percent ≤ 99 := by
  apply Progress.percent_record_le
  split
  · exact h
  · exact h

theorem Unconfirmed.step (h : r.Unconfirmed) (k : Call) : (step k r).2.Unconfirmed := by
  obtain ⟨p, hp, hpercent⟩ := h
  cases k with
  | cancel =>
    exact ⟨p.cancel, by rw [UploadReader.step, withdraw, hp, Option.map_some], hpercent⟩
  | read size =>
    have hcase := r.read_cases size
    change (r.read size).2.Unconfirmed
    generalize r.read size = outcome at hcase
    cases hcase with
    | refused hcancelled => exact ⟨p, hp, hpercent⟩
    | failed hfault => exact ⟨p, hp, hpercent⟩
    | @served bs source hserved =>
      exact ⟨r.noted source bs p, by rw [hp, Option.map_some], percent_noted_le hpercent source bs⟩

theorem Unconfirmed.run (h : r.Unconfirmed) (ks : List Call) :
    (Trace.run UploadReader.step r ks).state.Unconfirmed :=
  Trace.run_induction (P := fun t : Trace UploadReader Event => t.state.Unconfirmed) h
    (fun _ k ht => ht.step k) ks

end UploadReader

/-- A way to post a form with a file. All that comes of the file's reader meanwhile is that it is
read and that the caller cancels. -/
structure Transport where
  post : String → Form → String → FreshName → Nat → UploadReader → Wire →
    Except Error Reply × UploadReader × Wire
  reads : ∀ url form fileField fileName length r w, ∃ ks,
    (post url form fileField fileName length r w).2.1 = (Trace.run UploadReader.step r ks).state

def Wire.transport : Transport where
  post := Wire.postFile
  reads := by
    intro url form fileField fileName length r w
    obtain ⟨n, -, hstate⟩ :=
      r.exists_reads_of_send w.upcoming.uploadBuffer w.upcoming.uploadLimit #[]
    exact ⟨_, hstate⟩

def Transport.postBlob (t : Transport) (url blobId : String) (length : UInt64) (r : UploadReader)
    (w : Wire) : Except Error Reply × UploadReader × Wire :=
  t.post url [("blob_id", blobId)] "file" ⟨".blob"⟩ length.toNat (r.begun length) w

/-- An answer that confirms nothing, and the error that it is. -/
inductive Unanswered : Except Error Reply → Error → Prop
  | failed (e : Error) : Unanswered (.error e) e
  | refused {reply : Reply} {detail : ErrorDetail}
    (h : (Envelope.ofReply reply).verdict = .failure detail) :
    Unanswered (.ok reply) (.server detail reply.status)

theorem Envelope.toExcept_of_failure {e : Envelope} {detail : ErrorDetail}
    (h : e.verdict = .failure detail) : e.toExcept = .error (.server detail e.http) := by
  rw [toExcept, h]

namespace Unanswered

variable {answer : Except Error Reply} {reply : Reply} {e : Error}

theorem bind_document (h : Unanswered answer e) : answer.bind Reply.document = .error e := by
  cases h with
  | failed => rfl
  | @refused reply detail hverdict =>
    simp only [Except.bind]
    rw [Reply.document_eq, Envelope.toExcept_of_failure hverdict, Envelope.http_ofReply]
    rfl

theorem not_isOk (h : Unanswered (.ok reply) e) : (Envelope.ofReply reply).isOk = false := by
  cases h with
  | refused hverdict => rw [Envelope.isOk, hverdict]

end Unanswered

theorem isOk_or_unanswered (answer : Except Error Reply) :
    (∃ reply, answer = .ok reply ∧ (Envelope.ofReply reply).isOk = true) ∨
      ∃ e, Unanswered answer e := by
  cases answer with
  | error e => exact Or.inr ⟨e, .failed e⟩
  | ok reply =>
    cases hverdict : (Envelope.ofReply reply).verdict with
    | success document => exact Or.inl ⟨reply, rfl, by rw [Envelope.isOk, hverdict]⟩
    | failure detail => exact Or.inr ⟨_, .refused hverdict⟩

namespace Session

def uploadThrough (t : Transport) (s : Session) (blobId : String) (length : UInt64)
    (r : UploadReader) (w : Wire) : UploadOutcome :=
  if blobId.isEmpty then ⟨.error (.required "blob_id"), r.progress, w⟩
  else if (r.begun length).isCancelled then ⟨.error .cancelled, (r.begun length).progress, w⟩
  else
    match s.actionUrl "blob_upload" none with
    | .error e => ⟨.error e, (r.begun length).progress, w⟩
    | .ok url =>
      let (answer, r, w) := t.postBlob url blobId length r w
      let (result, progress) := settleUpload answer r.progress
      ⟨result, progress, w⟩

theorem upload_eq_uploadThrough (s : Session) (blobId : String) (length : UInt64)
    (r : UploadReader) (w : Wire) :
    s.upload blobId length r w = s.uploadThrough Wire.transport blobId length r w := rfl

variable {t : Transport} {s : Session} {blobId : String} {length : UInt64} {r : UploadReader}
  {p : Progress} {w : Wire}

/-- What an upload can come to, and the progress that it leaves. -/
inductive UploadCase (t : Transport) (s : Session) (blobId : String) (length : UInt64)
    (r : UploadReader) (p : Progress) (w : Wire) : UploadOutcome → Prop
  | unnamed (hid : blobId = "") :
    UploadCase t s blobId length r p w ⟨.error (.required "blob_id"), some p, w⟩
  | withdrawn (hid : blobId ≠ "") (hcancelled : p.cancelled = true) :
    UploadCase t s blobId length r p w ⟨.error .cancelled, some (p.begin length), w⟩
  | misdirected {e : Error} (hid : blobId ≠ "") (hcancelled : p.cancelled = false)
    (hurl : s.actionUrl "blob_upload" none = .error e) :
    UploadCase t s blobId length r p w ⟨.error e, some (p.begin length), w⟩
  | confirmed {url : String} {reply : Reply} {r' : UploadReader} {q : Progress} {w' : Wire}
    (hid : blobId ≠ "") (hcancelled : p.cancelled = false)
    (hurl : s.actionUrl "blob_upload" none = .ok url)
    (hpost : t.postBlob url blobId length r w = (.ok reply, r', w'))
    (hok : (Envelope.ofReply reply).isOk = true) (hprogress : r'.progress = some q) :
    UploadCase t s blobId length r p w ⟨.ok (), some q.complete, w'⟩
  | failed {url : String} {answer : Except Error Reply} {e : Error} {r' : UploadReader}
    {q : Progress} {w' : Wire} (hid : blobId ≠ "") (hcancelled : p.cancelled = false)
    (hurl : s.actionUrl "blob_upload" none = .ok url)
    (hpost : t.postBlob url blobId length r w = (answer, r', w')) (hanswer : Unanswered answer e)
    (hprogress : r'.progress = some q) (hpercent : q.percent ≤ 99) :
    UploadCase t s blobId length r p w
      ⟨.error (if q.cancelled then .cancelled else e), some q, w'⟩

theorem settleUpload_of_isOk {reply : Reply} (h : (Envelope.ofReply reply).isOk = true)
    (progress : Option Progress) :
    settleUpload (.ok reply) progress = (.ok (), progress.map Progress.complete) := by
  simp only [settleUpload, Except.bind]
  rw [Reply.document_of_isOk h]

theorem settleUpload_of_unanswered {answer : Except Error Reply} {e : Error}
    (h : Unanswered answer e) (progress : Option Progress) :
    settleUpload answer progress =
      (.error (if progress.any (·.cancelled) then .cancelled else e), progress) := by
  rw [settleUpload, h.bind_document]

theorem unconfirmed_postBlob (hp : r.progress = some p) (t : Transport) (url blobId : String)
    (length : UInt64) (w : Wire) : (t.postBlob url blobId length r w).2.1.Unconfirmed := by
  obtain ⟨ks, hreads⟩ :=
    t.reads url [("blob_id", blobId)] "file" ⟨".blob"⟩ length.toNat (r.begun length) w
  rw [Transport.postBlob, hreads]
  exact (UploadReader.unconfirmed_begun hp length).run ks

section Through

variable (hp : r.progress = some p)

include hp

theorem uploadThrough_unnamed (hid : blobId = "") :
    s.uploadThrough t blobId length r w = ⟨.error (.required "blob_id"), some p, w⟩ := by
  rw [uploadThrough, if_pos (String.isEmpty_iff.mpr hid), hp]

theorem isCancelled_begun : (r.begun length).isCancelled = p.cancelled := by
  rw [UploadReader.isCancelled_eq (UploadReader.progress_begun hp length)]
  rfl

variable (hid : blobId ≠ "")

include hid

theorem uploadThrough_withdrawn (hcancelled : p.cancelled = true) :
    s.uploadThrough t blobId length r w = ⟨.error .cancelled, some (p.begin length), w⟩ := by
  rw [uploadThrough, if_neg (fun h => hid (String.isEmpty_iff.mp h)), isCancelled_begun hp,
    if_pos hcancelled, UploadReader.progress_begun hp]

theorem uploadThrough_of_going (hcancelled : p.cancelled = false) :
    s.uploadThrough t blobId length r w = match s.actionUrl "blob_upload" none with
      | .error e => ⟨.error e, some (p.begin length), w⟩
      | .ok url =>
        let (answer, r, w) := t.postBlob url blobId length r w
        let (result, progress) := settleUpload answer r.progress
        ⟨result, progress, w⟩ := by
  rw [uploadThrough, if_neg (fun h => hid (String.isEmpty_iff.mp h)), isCancelled_begun hp,
    if_neg (by simp [hcancelled]), UploadReader.progress_begun hp]

theorem uploadThrough_misdirected {e : Error} (hcancelled : p.cancelled = false)
    (hurl : s.actionUrl "blob_upload" none = .error e) :
    s.uploadThrough t blobId length r w = ⟨.error e, some (p.begin length), w⟩ := by
  rw [uploadThrough_of_going hp hid hcancelled, hurl]

theorem uploadThrough_posted {url : String} (hcancelled : p.cancelled = false)
    (hurl : s.actionUrl "blob_upload" none = .ok url) :
    s.uploadThrough t blobId length r w =
      ⟨(settleUpload (t.postBlob url blobId length r w).1
          (t.postBlob url blobId length r w).2.1.progress).1,
        (settleUpload (t.postBlob url blobId length r w).1
          (t.postBlob url blobId length r w).2.1.progress).2,
        (t.postBlob url blobId length r w).2.2⟩ := by
  rw [uploadThrough_of_going hp hid hcancelled, hurl]

theorem result_of_unanswered {url : String} {e : Error} (hcancelled : p.cancelled = false)
    (hurl : s.actionUrl "blob_upload" none = .ok url)
    (hanswer : Unanswered (t.postBlob url blobId length r w).1 e) :
    (s.uploadThrough t blobId length r w).result = .error
      (if (t.postBlob url blobId length r w).2.1.isCancelled then .cancelled else e) := by
  rw [uploadThrough_posted hp hid hcancelled hurl, settleUpload_of_unanswered hanswer]
  rfl

end Through

theorem uploadThrough_cases (hp : r.progress = some p) (t : Transport) (s : Session)
    (blobId : String) (length : UInt64) (w : Wire) :
    UploadCase t s blobId length r p w (s.uploadThrough t blobId length r w) := by
  by_cases hid : blobId = ""
  · rw [uploadThrough_unnamed hp hid]
    exact .unnamed hid
  · cases hcancelled : p.cancelled with
    | true =>
      rw [uploadThrough_withdrawn hp hid hcancelled]
      exact .withdrawn hid hcancelled
    | false =>
      cases hurl : s.actionUrl "blob_upload" none with
      | error e =>
        rw [uploadThrough_misdirected hp hid hcancelled hurl]
        exact .misdirected hid hcancelled hurl
      | ok url =>
        have hunconfirmed := unconfirmed_postBlob hp t url blobId length w
        rw [uploadThrough_posted hp hid hcancelled hurl]
        rcases hpost : t.postBlob url blobId length r w with ⟨answer, r', w'⟩
        rw [hpost] at hunconfirmed
        obtain ⟨q, hprogress, hpercent⟩ := hunconfirmed
        rcases isOk_or_unanswered answer with ⟨reply, rfl, hok⟩ | ⟨e, hanswer⟩
        · rw [settleUpload_of_isOk hok, hprogress]
          exact .confirmed hid hcancelled hurl hpost hok hprogress
        · rw [settleUpload_of_unanswered hanswer, hprogress]
          exact .failed hid hcancelled hurl hpost hanswer hprogress hpercent

/-- How an upload with a progress ends, by what the transport returns and by when it is
cancelled. -/
structure UploadSettled (t : Transport) (s : Session) (blobId : String) (length : UInt64)
    (r : UploadReader) (p : Progress) (w : Wire) (o : UploadOutcome) : Prop where
  ok_iff : o.result = .ok () ↔ blobId ≠ "" ∧ p.cancelled = false ∧
    ∃ url reply, s.actionUrl "blob_upload" none = .ok url ∧
      (t.postBlob url blobId length r w).1 = .ok reply ∧ (Envelope.ofReply reply).isOk = true
  unnamed : blobId = "" → o = ⟨.error (.required "blob_id"), some p, w⟩
  withdrawn : blobId ≠ "" → p.cancelled = true →
    o = ⟨.error .cancelled, some (p.begin length), w⟩
  /-- What counts is whether the upload is cancelled by the time that the transport returns. -/
  unanswered : ∀ url e, blobId ≠ "" → p.cancelled = false →
    s.actionUrl "blob_upload" none = .ok url →
    Unanswered (t.postBlob url blobId length r w).1 e →
    o.result = .error
      (if (t.postBlob url blobId length r w).2.1.isCancelled then .cancelled else e)
  misdirected : ∀ e, blobId ≠ "" → p.cancelled = false →
    s.actionUrl "blob_upload" none = .error e → o = ⟨.error e, some (p.begin length), w⟩
  percent_of_ok : o.result = .ok () → ∃ q, o.progress = some q ∧ q.percent = 100
  percent_of_error : ∀ e, blobId ≠ "" → o.result = .error e →
    ∃ q, o.progress = some q ∧ q.percent ≤ 99

namespace UploadCase

variable {o : UploadOutcome}

theorem ok_iff (h : UploadCase t s blobId length r p w o) :
    o.result = .ok () ↔ blobId ≠ "" ∧ p.cancelled = false ∧
      ∃ url reply, s.actionUrl "blob_upload" none = .ok url ∧
        (t.postBlob url blobId length r w).1 = .ok reply ∧
        (Envelope.ofReply reply).isOk = true := by
  cases h with
  | unnamed hid => simp [hid]
  | withdrawn hid hcancelled => simp [hcancelled]
  | misdirected hid hcancelled hurl => simp [hurl]
  | @confirmed url reply r' q w' hid hcancelled hurl hpost hok hprogress =>
    exact iff_of_true rfl ⟨hid, hcancelled, url, reply, hurl, by rw [hpost], hok⟩
  | @failed url answer e r' q w' hid hcancelled hurl hpost hanswer hprogress hpercent =>
    constructor
    · intro hresult
      cases hresult
    · rintro ⟨-, -, url', reply, hurl', hreply, hok⟩
      obtain rfl : url = url' := Except.ok.inj (hurl.symm.trans hurl')
      rw [hpost] at hreply
      cases hreply
      rw [hanswer.not_isOk] at hok
      cases hok

theorem percent_of_ok (h : UploadCase t s blobId length r p w o) (hok : o.result = .ok ()) :
    ∃ q, o.progress = some q ∧ q.percent = 100 := by
  cases h with
  | confirmed hid hcancelled hurl hpost hok' hprogress => exact ⟨_, rfl, rfl⟩
  | unnamed | withdrawn | misdirected | failed => cases hok

theorem percent_of_error (h : UploadCase t s blobId length r p w o) (hid : blobId ≠ "") {e : Error}
    (he : o.result = .error e) : ∃ q, o.progress = some q ∧ q.percent ≤ 99 := by
  have hbegun : (p.begin length).percent ≤ 99 := by simp [Progress.begin]
  cases h with
  | unnamed hid' => exact absurd hid' hid
  | withdrawn | misdirected => exact ⟨_, rfl, hbegun⟩
  | confirmed => cases he
  | failed hid' hcancelled hurl hpost hanswer hprogress hpercent => exact ⟨_, rfl, hpercent⟩

end UploadCase

/-- However the transport reads the blob and whatever it returns, whenever the caller cancels and
whatever length was declared: the upload succeeds exactly if it was confirmed, says so by its
percentage, and puts every failure down to the cancellation if there was one. -/
theorem upload_settled (t : Transport) (s : Session) (blobId : String) (length : UInt64)
    (source : Source) (p : Progress) (cancels : Nat → Bool → Bool) (w : Wire) :
    UploadSettled t s blobId length ⟨source, some p, cancels⟩ p w
        (s.uploadThrough t blobId length ⟨source, some p, cancels⟩ w) ∧
      s.upload blobId length ⟨source, some p, cancels⟩ w =
        s.uploadThrough Wire.transport blobId length ⟨source, some p, cancels⟩ w := by
  refine ⟨?_, upload_eq_uploadThrough s blobId length _ w⟩
  have hcases := uploadThrough_cases (r := ⟨source, some p, cancels⟩) rfl t s blobId length w
  exact {
    ok_iff := hcases.ok_iff
    unnamed := uploadThrough_unnamed rfl
    withdrawn := uploadThrough_withdrawn rfl
    unanswered := fun url e hid hcancelled hurl hanswer =>
      result_of_unanswered rfl hid hcancelled hurl hanswer
    misdirected := fun e hid hcancelled hurl => uploadThrough_misdirected rfl hid hcancelled hurl
    percent_of_ok := hcases.percent_of_ok
    percent_of_error := fun e hid he => hcases.percent_of_error hid he }

/-- A server with one answer to what it is sent. -/
def verdictWire (text : String) : Wire where
  exchanges := [{ answer := .ok ⟨.ofBytes (Utf8.encode text), ⟨200, "OK"⟩⟩ }]

/-- An upload that is cancelled when the transport meets the end of the blob: it succeeds if the
server confirms it. -/
theorem upload_settled_cancelledLate :
    let o := (⟨"http://h", "d", "n", "s", "1"⟩ : Session).upload "b" 2
      ⟨.ofBytes [1, 2, 3], some {}, fun _ atEnd => atEnd⟩
      (verdictWire "\x7b\"status\":\"OK\"\x7d")
    o.result = .ok () ∧ (∃ q, o.progress = some q ∧ q.percent = 100) ∧
      o.progress.any (·.cancelled) = true := by
  intro o
  obtain ⟨hsettled, hthrough⟩ := upload_settled Wire.transport ⟨"http://h", "d", "n", "s", "1"⟩ "b"
    2 (.ofBytes [1, 2, 3]) {} (fun _ atEnd => atEnd)
    (verdictWire "\x7b\"status\":\"OK\"\x7d")
  rw [← hthrough] at hsettled
  have hok : o.result = .ok () := hsettled.ok_iff.mpr
    ⟨by decide, rfl, "http://h/session/s/connection/1/blob_upload",
      ⟨"\x7b\"status\":\"OK\"\x7d", ⟨200, "OK"⟩⟩, eq_ok_of_toOption (by decide +kernel),
      eq_ok_of_toOption (by decide +kernel), by decide +kernel⟩
  exact ⟨hok, hsettled.percent_of_ok hok, by decide +kernel⟩

end Session

end RemoteSql
