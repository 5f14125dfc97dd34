import Mathlib
import RemoteSql.Proofs.Blob.Download
import RemoteSql.Proofs.Connection.Blame
import RemoteSql.Proofs.Stream.Copying

/-!
# Downloads that are interrupted

The loop that copies a download and the one that copies any other body write the same octets and end
alike, whatever their buffers, until a read is interrupted: the one gives up and the other tries
again. That is where they differ, and nowhere else.
-/

namespace RemoteSql

/-- An interruption comes while the sink has taken all before it. -/
def BrokenOff (ds : List Delivery) (w : Sink) : Prop :=
  ∃ bs rest, ds = bs.map .octet ++ .interruption :: rest ∧ (w.write bs).1 = .ok ()

section CopyOctets

variable {w w' : Sink} {ds : List Delivery} {b : UInt8}

theorem not_brokenOff_nil : ¬BrokenOff [] w := by
  rintro ⟨bs, rest, h, -⟩
  simp at h

theorem not_brokenOff_failure (text : String) : ¬BrokenOff (.failure text :: ds) w := by
  rintro ⟨bs, rest, h, -⟩
  cases bs <;> simp at h

theorem brokenOff_interruption : BrokenOff (.interruption :: ds) w :=
  ⟨[], ds, rfl, by rw [Sink.write_nil]⟩

theorem brokenOff_octet_iff : BrokenOff (.octet b :: ds) w ↔
    ∃ bs rest, ds = bs.map .octet ++ .interruption :: rest ∧ (w.write (b :: bs)).1 = .ok () := by
  constructor
  · rintro ⟨bs, rest, h, hok⟩
    cases bs with
    | nil => simp at h
    | cons c bs =>
      rw [List.map_cons, List.cons_append, List.cons.injEq, Delivery.octet.injEq] at h
      obtain ⟨rfl, h⟩ := h
      exact ⟨bs, rest, h, hok⟩
  · rintro ⟨bs, rest, rfl, hok⟩
    exact ⟨b :: bs, rest, rfl, hok⟩

theorem brokenOff_octet (hw : w.Filling) (hwrite : w.write [b] = (.ok (), w')) :
    BrokenOff (.octet b :: ds) w ↔ BrokenOff ds w' := by
  have hcons : ∀ bs, w.write (b :: bs) = w'.write bs := by
    intro bs
    rw [hw.write_cons, hwrite]
  simp only [brokenOff_octet_iff, hcons]
  rfl

theorem not_brokenOff_full {text : String} (hw : w.Filling)
    (hwrite : w.write [b] = (.error text, w')) : ¬BrokenOff (.octet b :: ds) w := by
  rw [brokenOff_octet_iff]
  rintro ⟨bs, rest, -, hok⟩
  rw [hw.write_cons, hwrite] at hok
  cases hok

theorem copyOctets_true_ne (ds : List Delivery) (w : Sink) (total : Nat) :
    (copyOctets true ds w total).1 ≠ .error (.reading .interrupted) := by
  induction ds generalizing w total with
  | nil =>
    rw [copyOctets]
    split <;> simp [Error.reading]
  | cons d ds ih =>
    cases d with
    | failure text => simp [copyOctets, Error.reading]
    | interruption =>
      rw [copyOctets, if_pos rfl]
      exact ih w total
    | octet b =>
      rw [copyOctets]
      split
      · next w' hwrite => exact ih w' (total + 1)
      · simp [Error.reading]

/-- The two ways to copy differ exactly where one of them gives up. -/
theorem copyOctets_false_eq_iff (hw : w.Filling) (ds : List Delivery) (total : Nat) :
    copyOctets false ds w total = copyOctets true ds w total ↔ ¬BrokenOff ds w := by
  induction ds generalizing w total with
  | nil => exact iff_of_true rfl not_brokenOff_nil
  | cons d ds ih =>
    cases d with
    | failure text => exact iff_of_true rfl (not_brokenOff_failure text)
    | interruption =>
      refine iff_of_false ?_ fun h => h brokenOff_interruption
      intro h
      exact copyOctets_true_ne ds w total (congrArg Prod.fst h).symm
    | octet b =>
      have hfilling := hw.write [b]
      rw [copyOctets, copyOctets]
      rcases hwrite : w.write [b] with ⟨text | _, w'⟩
      · exact iff_of_true rfl (not_brokenOff_full hw hwrite)
      · rw [hwrite] at hfilling
        rw [brokenOff_octet hw hwrite]
        exact ih hfilling (total + 1)

end CopyOctets

namespace Copy

theorem chunkSize_pos : 0 < chunkSize := by decide

theorem put_of_unwatched {c : Copy} (hp : c.progress = none) (bs : Bytes) :
    c.put bs = match c.sink.write bs with
      | (.ok (), sink) => (.ok (), { c with sink })
      | (.error text, sink) => (.error (.localIo text), { c with sink }) := by
  unfold put
  rcases c.sink.write bs with ⟨text | _, sink⟩
  · rfl
  · simp [hp]

theorem fill_eq_copyOctets {c : Copy} (hp : c.progress = none) (hw : c.sink.Filling) (s : Source)
    (written : Nat) :
    c.fill s written = ((copyOctets false s.pending c.sink written).1,
      { c with sink := (copyOctets false s.pending c.sink written).2 }) := by
  fun_induction fill c s written with
  | case1 c s written hcancelled => simp [isCancelled, hp] at hcancelled
  | case2 c s written hgoing fault s' hread =>
    cases Source.readCase_of_read chunkSize_pos hread with
    | interrupted hpending => simp [hpending, copyOctets]
    | failed hpending => simp [hpending, copyOctets]
  | case3 c s written hgoing s' hread =>
    cases Source.readCase_of_read chunkSize_pos hread with
    | ended hpending =>
      rw [hpending, copyOctets, finish]
      cases c.sink.flush with
      | error text => rfl
      | ok _ => simp [hp]
  | case4 c s written hgoing b bs s' hread e c' hput =>
    cases Source.readCase_of_read chunkSize_pos hread with
    | served hpending =>
      rw [put_of_unwatched hp] at hput
      rw [hpending, copyOctets_append hw]
      rcases hwrite : c.sink.write (b :: bs) with ⟨text | _, sink⟩
      · rw [hwrite] at hput
        cases hput
        rfl
      · rw [hwrite] at hput
        cases hput
  | case5 c s written hgoing b bs s' hread c' hput ih =>
    cases Source.readCase_of_read chunkSize_pos hread with
    | served hpending =>
      have hfilling := hw.write (b :: bs)
      rw [put_of_unwatched hp] at hput
      rw [hpending, copyOctets_append hw]
      rcases hwrite : c.sink.write (b :: bs) with ⟨text | _, sink⟩
      · rw [hwrite] at hput
        cases hput
      · rw [hwrite] at hput hfilling
        cases hput
        exact ih hp hfilling

end Copy

namespace Session

variable {s : Session} {blobId : String} {c : Copy} {w w₁ : Wire} {body : Source}

theorem downloadTo_eq_fill_of_unwatched (hp : c.progress = none)
    (hbody : (s.download blobId).run w = (.ok body, w₁)) :
    s.downloadTo blobId c w = ((c.fill body 0).1, (c.fill body 0).2, w₁) := by
  unfold downloadTo
  rw [hp]
  dsimp only
  rw [hbody]

/-- A download without a progress does to its sink what the other loop would do, and ends as that
would, exactly if it is not interrupted before the sink is full; if it is, it ends there. -/
theorem downloadTo_agrees (hp : c.progress = none) (hsink : c.sink.Filling)
    (hbody : (s.download blobId).run w = (.ok body, w₁)) :
    ∃ r sink, s.downloadTo blobId c w = (r, { c with sink }, w₁) ∧
      ((r, sink) = body.drainInto c.sink ↔ ¬BrokenOff body.pending c.sink) ∧
      ∀ bs rest, body.pending = bs.map .octet ++ .interruption :: rest →
        (c.sink.write bs).1 = .ok () →
        (r, sink) = (.error (.reading .interrupted), (c.sink.write bs).2) := by
  refine ⟨(copyOctets false body.pending c.sink 0).1, (copyOctets false body.pending c.sink 0).2,
    ?_, ?_, ?_⟩
  · rw [downloadTo_eq_fill_of_unwatched hp hbody, Copy.fill_eq_copyOctets hp hsink]
  · rw [Source.drainInto, Source.drain_eq_copyOctets hsink]
    exact copyOctets_false_eq_iff hsink body.pending 0
  · intro bs rest hpending hok
    rw [hpending, copyOctets_append hsink]
    rcases hwrite : c.sink.write bs with ⟨text | _, sink⟩
    · rw [hwrite] at hok
      cases hok
    · rfl

/-- A server that sends a blob, at most two octets a read. -/
def blobWire (pending : List Delivery) : Wire where
  exchanges := [{ answer := .ok ⟨{ pending, limit := fun _ => some 2 }, ⟨200, "OK"⟩⟩ }]

theorem exists_download_blobWire (pending : List Delivery) :
    ∃ w₁, ((⟨"http://h", "d", "n", "s", "1"⟩ : Session).download "b").run (blobWire pending) =
      (.ok { pending, limit := fun _ => some 2 }, w₁) := by
  have hurl : (⟨"http://h", "d", "n", "s", "1"⟩ : Session).actionUrl "blob_download" none =
      .ok "http://h/session/s/connection/1/blob_download" := eq_ok_of_toOption (by decide +kernel)
  have hdownload : (⟨"http://h", "d", "n", "s", "1"⟩ : Session).download "b" =
      (⟨"http://h", "d", "n", "s", "1"⟩ : Session).fetch "blob_download" [("blob_id", "b")] := rfl
  rw [hdownload, fetch_eq_exchange, hurl]
  exact ⟨_, rfl⟩

/-- An interruption that comes when the sink is full is not met. -/
theorem downloadTo_agrees_full :
    let pending : List Delivery := [.octet 1, .octet 2, .octet 3, .interruption]
    ∃ r sink w₁, (⟨"http://h", "d", "n", "s", "1"⟩ : Session).downloadTo "b"
        { sink := .filling 2 } (blobWire pending) = (r, { sink }, w₁) ∧
      (r, sink) = ({ pending, limit := fun _ => some 2 } : Source).drainInto (.filling 2) := by
  intro pending
  let sinkOf : Array UInt8 → Sink := fun held => { Sink.filling 2 with held }
  have hsink : ∀ held, (sinkOf held).Filling := fun _ => Or.inr ⟨2, fun _ _ => rfl⟩
  have hfirst : (sinkOf #[]).write [1] = (.ok (), sinkOf #[1]) := rfl
  have hsecond : (sinkOf #[1]).write [2] = (.ok (), sinkOf #[1, 2]) := rfl
  have hfull : ¬BrokenOff pending (sinkOf #[]) := by
    rw [brokenOff_octet (hsink _) hfirst, brokenOff_octet (hsink _) hsecond]
    exact not_brokenOff_full (hsink _) rfl
  obtain ⟨w₁, hbody⟩ := exists_download_blobWire pending
  obtain ⟨r, sink, hrun, hagree, -⟩ :=
    downloadTo_agrees (c := { sink := .filling 2 }) rfl (hsink #[]) hbody
  exact ⟨r, sink, w₁, hrun, hagree.mpr hfull⟩

/-- Interrupted between two octets, a download gives up after the first of them, while the other loop
copies both. -/
theorem downloadTo_interrupted :
    let pending : List Delivery := [.octet 97, .interruption, .octet 98]
    let body : Source := { pending, limit := fun _ => some 2 }
    let s : Session := ⟨"http://h", "d", "n", "s", "1"⟩
    ∃ w₁, (s.download "b").run (blobWire pending) = (.ok body, w₁) ∧
      body.drainInto {} = (.ok 2, { held := #[97, 98] }) ∧
      s.downloadTo "b" { sink := {} } (blobWire pending) =
        (.error (.reading .interrupted), { sink := { held := #[97] } }, w₁) := by
  intro pending body s
  have hsink : ({} : Sink).Filling := Or.inl fun _ _ => rfl
  obtain ⟨w₁, hbody⟩ := exists_download_blobWire pending
  refine ⟨w₁, hbody, ?_, ?_⟩
  · rw [Source.drainInto, Source.drain_eq_copyOctets hsink]
    rfl
  · rw [downloadTo_eq_fill_of_unwatched rfl hbody, Copy.fill_eq_copyOctets rfl hsink]
    rfl

end Session

end RemoteSql
