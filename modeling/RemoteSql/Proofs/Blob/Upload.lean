import Mathlib
import RemoteSql.Blob.Upload
import RemoteSql.Proofs.Stream.Delivery
import RemoteSql.Proofs.Trace

/-!
# What a transport gets of an upload

The transport reads an upload in pieces of whatever sizes it likes, and the caller may cancel between
two reads or in the course of one. What has been read so far is the front of the source, and the
progress counts it. Once cancelled, every read is refused and nothing moves any more.
-/

namespace RemoteSql

namespace UploadReader

/-- What is done to a reader, by the transport or by the caller. -/
inductive Call
  | read (size : Nat)
  | cancel

inductive Event
  | read (size : Nat) (outcome : Except ReadFault Bytes)
  | cancelled

def withdraw (r : UploadReader) : UploadReader :=
  { r with progress := r.progress.map Progress.cancel }

def step : Call → UploadReader → Event × UploadReader
  | .read size, r => (.read size (r.read size).1, (r.read size).2)
  | .cancel, r => (.cancelled, r.withdraw)

def Event.handed : Event → Bytes
  | .read _ (.ok bs) => bs
  | .read _ (.error _) | .cancelled => []

def handed (events : List Event) : Bytes := events.flatMap Event.handed

/-- What comes of a call once the transfer is cancelled. -/
def refused : Call → Event
  | .read size => .read size (.error .withdrawn)
  | .cancel => .cancelled

/-- The reader that the transport is given for a transfer of a declared length. -/
def begun (r : UploadReader) (length : UInt64) : UploadReader :=
  { r with progress := r.progress.map fun p => p.begin length }

theorem progress_begun {r : UploadReader} {p : Progress} (hp : r.progress = some p)
    (length : UInt64) : (r.begun length).progress = some (p.begin length) := by
  rw [begun, hp, Option.map_some]

/-- The progress after a read. The caller may cancel while the octets are on their way. -/
def noted (r : UploadReader) (source : Source) (bs : Bytes) (p : Progress) : Progress :=
  (if r.cancels source.served bs.isEmpty then p.cancel else p).record (UInt64.ofNat bs.length)

theorem transferred_noted (r : UploadReader) (source : Source) (bs : Bytes) (p : Progress) :
    (r.noted source bs p).transferred = p.transferred + UInt64.ofNat bs.length := by
  unfold noted
  split <;> rfl

inductive ReadCase (r : UploadReader) (size : Nat) : Except ReadFault Bytes × UploadReader → Prop
  | refused (h : r.isCancelled = true) : ReadCase r size (.error .withdrawn, r)
  | failed {fault : ReadFault} {source : Source} (h : r.source.read size = (.error fault, source)) :
    ReadCase r size (.error fault, { r with source })
  | served {bs : Bytes} {source : Source} (h : r.source.read size = (.ok bs, source)) :
    ReadCase r size
      (.ok bs, { r with source, progress := r.progress.map (r.noted source bs) })

theorem read_cases (r : UploadReader) (size : Nat) : ReadCase r size (r.read size) := by
  unfold read
  split
  · next h => exact .refused h
  · split
    · next h => exact .failed h
    · next h => exact .served h

theorem isCancelled_eq {r : UploadReader} {p : Progress} (h : r.progress = some p) :
    r.isCancelled = p.cancelled := by
  rw [isCancelled, h]
  rfl

/-! ## The account of a run -/

/-- What was read is what the source has lost, and the progress has gone up by as much. -/
structure Accounts (r : UploadReader) (t : Trace UploadReader Event) : Prop where
  octets_eq : r.source.octets = handed t.events ++ t.state.source.octets
  transferred_eq : t.state.progress.map (·.transferred) =
    r.progress.map fun p => p.transferred + UInt64.ofNat (handed t.events).length

theorem handed_concat (events : List Event) (e : Event) :
    handed (events ++ [e]) = handed events ++ e.handed := by
  simp [handed]

theorem Accounts.still {r r' : UploadReader} {t : Trace UploadReader Event} {e : Event}
    (h : Accounts r t) (he : e.handed = []) (hoctets : r'.source.octets = t.state.source.octets)
    (htransferred : r'.progress.map (·.transferred) = t.state.progress.map (·.transferred)) :
    Accounts r { state := r', events := t.events ++ [e] } := by
  have hhanded : handed (t.events ++ [e]) = handed t.events := by
    rw [handed_concat, he, List.append_nil]
  constructor
  · rw [hhanded, hoctets]
    exact h.octets_eq
  · rw [hhanded, htransferred]
    exact h.transferred_eq

theorem Accounts.next {r : UploadReader} {t : Trace UploadReader Event} (h : Accounts r t)
    (k : Call) : Accounts r (t.next step k) := by
  cases k with
  | cancel =>
    rw [Trace.next_of_step (e := .cancelled) (s := t.state.withdraw) rfl]
    refine h.still rfl rfl ?_
    simp [withdraw, Progress.cancel, Function.comp_def]
  | read size =>
    have hcase := t.state.read_cases size
    rcases hread : t.state.read size with ⟨outcome, r'⟩
    rw [hread] at hcase
    rw [Trace.next_of_step (e := .read size outcome) (s := r') (by rw [step, hread])]
    cases hcase with
    | refused hcancelled => exact h.still rfl rfl rfl
    | failed hfault => exact h.still rfl (Source.octets_eq_of_fault hfault) rfl
    | @served bs source hserved =>
      constructor
      · rw [handed_concat, h.octets_eq, Source.octets_eq_of_read hserved, List.append_assoc]
        rfl
      · have hnoted : (t.state.progress.map (t.state.noted source bs)).map (·.transferred) =
            (t.state.progress.map (·.transferred)).map (· + UInt64.ofNat bs.length) := by
          simp [Function.comp_def, transferred_noted]
        rw [hnoted, h.transferred_eq, handed_concat, List.length_append, UInt64.ofNat_add]
        simp [Function.comp_def, UInt64.add_assoc, Event.handed]

theorem accounts_run (r : UploadReader) (ks : List Call) : Accounts r (Trace.run step r ks) := by
  apply Trace.run_induction
  · constructor
    · rfl
    · simp [handed]
  · intro t k h
    exact h.next k

/-! ## Cancelling -/

theorem step_of_cancelled {r : UploadReader} (h : r.isCancelled = true) (k : Call) :
    step k r = (refused k, r) := by
  cases k with
  | read size =>
    have hread : r.read size = (.error .withdrawn, r) := if_pos h
    rw [step, hread]
    rfl
  | cancel =>
    have hwithdraw : r.withdraw = r := by
      rcases hp : r.progress with - | p
      · simp [isCancelled, hp] at h
      · have hflag : p.cancelled = true := (isCancelled_eq hp).symm.trans h
        have hcancel : p.cancel = p := by
          rw [Progress.cancel, ← hflag]
        rw [withdraw, hp, Option.map_some, hcancel, ← hp]
    rw [step, hwithdraw]
    rfl

/-- A cancelled transfer stays where it is, whatever is called. -/
theorem run_of_cancelled {r : UploadReader} (h : r.isCancelled = true) (ks : List Call) :
    Trace.run step r ks = { state := r, events := ks.map refused } := by
  induction ks with
  | nil => rfl
  | cons k ks ih =>
    rw [Trace.run_cons, step_of_cancelled h, ih]
    rfl

theorem isSome_progress_run (r : UploadReader) (ks : List Call) :
    (Trace.run step r ks).state.progress.isSome = r.progress.isSome := by
  have h := congrArg Option.isSome (accounts_run r ks).transferred_eq
  simpa only [Option.isSome_map] using h

theorem isCancelled_withdraw {r : UploadReader} (h : r.progress.isSome = true) :
    r.withdraw.isCancelled = true := by
  obtain ⟨p, hp⟩ := Option.isSome_iff_exists.mp h
  rw [isCancelled_eq (p := p.cancel) (by rw [withdraw, hp, Option.map_some])]
  rfl

/-- The account of the calls before a moment, and what calls after it come to once the transfer is
cancelled. -/
structure Accounted (r : UploadReader) (before after : List Call) : Prop where
  octets_eq : r.source.octets =
    handed (Trace.run step r before).events ++ (Trace.run step r before).state.source.octets
  transferred_eq : ∃ p, (Trace.run step r before).state.progress = some p ∧
    p.transferred = UInt64.ofNat (handed (Trace.run step r before).events).length
  cancelled : Trace.run step r (before ++ .cancel :: after) =
    { state := (Trace.run step r before).state.withdraw
      events := (Trace.run step r before).events ++ .cancelled :: after.map refused }
  seen : (Trace.run step r before).state.isCancelled = true →
    Trace.run step r (before ++ after) =
      { state := (Trace.run step r before).state
        events := (Trace.run step r before).events ++ after.map refused }

theorem accounted {r : UploadReader} {p : Progress} (hp : r.progress = some p) (length : UInt64)
    (before after : List Call) : (r.begun length).Accounted before after := by
  have haccounts := accounts_run (r.begun length) before
  have hbegun := progress_begun hp length
  have hprogress : (Trace.run step (r.begun length) before).state.progress.isSome = true := by
    rw [isSome_progress_run, hbegun]
    rfl
  constructor
  · exact haccounts.octets_eq
  · obtain ⟨p', hp'⟩ := Option.isSome_iff_exists.mp hprogress
    have htransferred := haccounts.transferred_eq
    rw [hp', hbegun, Option.map_some, Option.map_some, Option.some.injEq] at htransferred
    exact ⟨p', hp', by simpa [Progress.begin] using htransferred⟩
  · have hafter := run_of_cancelled (isCancelled_withdraw hprogress) after
    rw [Trace.run_append, Trace.run_cons]
    simp only [step, hafter]
  · intro hcancelled
    rw [Trace.run_append, run_of_cancelled hcancelled]

/-! ## What the server gets -/

theorem run_reads_succ {r r' : UploadReader} {size : Nat} {outcome : Except ReadFault Bytes}
    (h : r.read size = (outcome, r')) (n : Nat) :
    Trace.run step r (List.replicate (n + 1) (.read size)) =
      { state := (Trace.run step r' (List.replicate n (.read size))).state
        events := .read size outcome ::
          (Trace.run step r' (List.replicate n (.read size))).events } := by
  rw [List.replicate_succ, Trace.run_cons]
  simp only [step, h]

/-- A transport that sends an upload makes one read after the other. -/
theorem exists_reads_of_send (r : UploadReader) (size : Nat) (enough : Option Nat)
    (received : Array UInt8) :
    ∃ n, (r.send size enough received).1.toList =
        received.toList ++ handed (Trace.run step r (List.replicate n (.read size))).events ∧
      (r.send size enough received).2.2 =
        (Trace.run step r (List.replicate n (.read size))).state := by
  fun_induction send r size enough received with
  | case1 r received henough =>
    exact ⟨0, (List.append_nil _).symm, rfl⟩
  | case2 r received henough r' hread =>
    refine ⟨1, ?_, ?_⟩
    · rw [run_reads_succ hread 0]
      exact (List.append_nil _).symm
    · rw [run_reads_succ hread 0]
      rfl
  | case3 r received henough b bs r' hread ih =>
    obtain ⟨n, hreceived, hstate⟩ := ih
    refine ⟨n + 1, ?_, ?_⟩
    · rw [hreceived, run_reads_succ hread n]
      simp [handed, Event.handed]
    · rw [hstate, run_reads_succ hread n]
  | case4 r received henough fault r' hread =>
    refine ⟨1, ?_, ?_⟩
    · rw [run_reads_succ hread 0]
      exact (List.append_nil _).symm
    · rw [run_reads_succ hread 0]
      rfl

end UploadReader

namespace Session

open UploadReader (step handed)

theorem transferred_settleUpload (answer : Except Error Reply) (progress : Option Progress) :
    (settleUpload answer progress).2.map (·.transferred) = progress.map (·.transferred) := by
  unfold settleUpload
  split
  · cases progress <;> rfl
  · rfl

/-- An upload sends nothing, or it sends what some reads have yielded. -/
theorem upload_cases (s : Session) (blobId : String) (length : UInt64) (r : UploadReader)
    (w : Wire) :
    (s.upload blobId length r w).wire = w ∨
    ∃ url calls, (s.upload blobId length r w).wire =
        w.after (.multipart url [("blob_id", blobId)] "file" ⟨".blob"⟩ length.toNat
          (handed (Trace.run step (r.begun length) calls).events)) ∧
      (s.upload blobId length r w).progress.map (·.transferred) =
        (Trace.run step (r.begun length) calls).state.progress.map (·.transferred) := by
  unfold upload
  split
  · exact Or.inl rfl
  · dsimp only
    split
    · exact Or.inl rfl
    · split
      · exact Or.inl rfl
      · next url hurl =>
        right
        obtain ⟨n, hreceived, hstate⟩ := UploadReader.exists_reads_of_send (r.begun length)
          w.upcoming.uploadBuffer w.upcoming.uploadLimit #[]
        refine ⟨url, List.replicate n (.read w.upcoming.uploadBuffer), ?_, ?_⟩
        · exact congrArg (fun received => w.after (.multipart url [("blob_id", blobId)] "file"
            ⟨".blob"⟩ length.toNat received)) hreceived
        · rw [transferred_settleUpload, ← hstate]
          rfl

end Session

end RemoteSql
