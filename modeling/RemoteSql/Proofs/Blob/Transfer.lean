import Mathlib
import RemoteSql.Proofs.Blob.Download
import RemoteSql.Proofs.Blob.Progress
import RemoteSql.Proofs.Blob.Upload
import RemoteSql.Proofs.Connection.Classification

/-!
# Blob transfers and their progress

Uploads and downloads keep their accounts whatever pieces the blob is read in and whenever they are
cancelled. A download with progress is a copy of the body, once the server has told its length and
sent it.
-/

namespace RemoteSql

theorem Session.downloadTo_eq_fill {s : Session} {blobId : String} {c : Copy} {p : Progress}
    {w w₁ w₂ : Wire} {length : UInt64} {body : Source} (hp : c.progress = some p)
    (hlength : (s.blobLength blobId).run w = (.ok length, w₁))
    (hbody : (s.download blobId).run w₁ = (.ok body, w₂)) :
    s.downloadTo blobId c w =
      ((({ c with progress := some (p.begin length) } : Copy).fill body 0).1,
        (({ c with progress := some (p.begin length) } : Copy).fill body 0).2, w₂) := by
  rw [downloadTo_of_length hp hlength, hbody]

/-- What the transport gets of an upload is the front of the source, and a download writes the front
of the body, as far as the progress has counted; both stop where they are once they are cancelled.
A download is whole exactly if no look found it cancelled. Only a reset takes back the wish to
cancel. -/
theorem transfer_accounted :
    (∀ (r : UploadReader) (p : Progress) (length : UInt64) (before after : List UploadReader.Call),
      r.progress = some p → (r.begun length).Accounted before after) ∧
    (∀ (s : Session) (blobId : String) (length : UInt64) (r : UploadReader) (p : Progress)
      (w : Wire), r.progress = some p → (s.upload blobId length r w).wire = w ∨
      ∃ url received q,
        (s.upload blobId length r w).wire = w.after
          (.multipart url [("blob_id", blobId)] "file" ⟨".blob"⟩ length.toNat received) ∧
        received <+: r.source.octets ∧ (s.upload blobId length r w).progress = some q ∧
        q.transferred = UInt64.ofNat received.length) ∧
    (∀ (s : Session) (blobId : String) (c : Copy) (p : Progress) (w w₁ w₂ : Wire)
      (length : UInt64) (body : Source), c.progress = some p →
      (s.blobLength blobId).run w = (.ok length, w₁) →
      (s.download blobId).run w₁ = (.ok body, w₂) → body.Steady → c.sink.Accepting →
      ∃ r c', s.downloadTo blobId c w = (r, c', w₂) ∧
        Copy.Accounted { c with progress := some (p.begin length) } body r c') ∧
    ∀ (p : Progress) (ks : List Progress.Call), (p.run ks).cancelled = true ↔
      Since (· = Progress.Call.cancel) (· = Progress.Call.reset) ks ∨
        p.cancelled = true ∧ Progress.Call.reset ∉ ks := by
  refine ⟨fun r p length before after hp => UploadReader.accounted hp length before after, ?_, ?_,
    Progress.cancelled_run⟩
  · intro s blobId length r p w hp
    rcases s.upload_cases blobId length r w with hunsent | ⟨url, calls, hwire, htransferred⟩
    · exact Or.inl hunsent
    · have haccounted := UploadReader.accounted hp length calls []
      obtain ⟨q', hq', hcount⟩ := haccounted.transferred_eq
      rw [hq', Option.map_some] at htransferred
      obtain ⟨q, hq, hqcount⟩ := Option.map_eq_some_iff.mp htransferred
      refine Or.inr ⟨url, _, q, hwire, ⟨_, haccounted.octets_eq.symm⟩, hq, ?_⟩
      rw [hqcount, hcount]
  · intro s blobId c p w w₁ w₂ length body hp hlength hdownload hbody hsink
    exact ⟨_, _, Session.downloadTo_eq_fill hp hlength hdownload,
      Copy.accounted hbody hsink rfl rfl⟩

/-- Three octets, at most two a read. -/
def threeOctets : Source := { Source.ofBytes [1, 2, 3] with limit := fun _ => some 2 }

/-- A server that tells the length of a blob and sends it. -/
def threeOctetsWire : Wire where
  exchanges :=
    [{ answer := .ok ⟨.ofBytes (Utf8.encode "\x7b\"status\":\"OK\",\"length\":3\x7d"),
        ⟨200, "OK"⟩⟩ },
      { answer := .ok ⟨threeOctets, ⟨200, "OK"⟩⟩ }]

/-- An upload that is cancelled between two reads, and a download that is cancelled when two octets
have been written. -/
theorem transfer_accounted_withdrawn :
    (∃ p, (Trace.run UploadReader.step ((⟨threeOctets, some {}, fun _ _ => false⟩ :
        UploadReader).begun 3) [.read 2]).state.progress = some p ∧ p.transferred = 2) ∧
    ∃ r c' w', Session.downloadTo ⟨"http://h", "d", "n", "s", "1"⟩ "b"
        ⟨{}, some {}, fun held => held == 2⟩ threeOctetsWire = (r, c', w') ∧
      ∃ n, c'.sink.toBytes = [1, 2, 3].take n := by
  obtain ⟨hupload, -, hdownload, -⟩ := transfer_accounted
  constructor
  · obtain ⟨p, hp, htransferred⟩ := (hupload ⟨threeOctets, some {}, fun _ _ => false⟩ {} 3
      [.read 2] [.read 2] rfl).transferred_eq
    have hhanded : (UploadReader.handed (Trace.run UploadReader.step ((⟨threeOctets, some {},
        fun _ _ => false⟩ : UploadReader).begun 3) [.read 2]).events).length = 2 := by
      decide +kernel
    exact ⟨p, hp, by rw [htransferred, hhanded]; rfl⟩
  · let s : Session := ⟨"http://h", "d", "n", "s", "1"⟩
    let w₁ := ((s.blobLength "b").run threeOctetsWire).2
    have hlength : ((s.blobLength "b").run threeOctetsWire).1 = .ok 3 :=
      eq_ok_of_toOption (by decide +kernel)
    have hpending : ((s.download "b").run w₁).1.toOption.map (·.pending) =
        some [.octet 1, .octet 2, .octet 3] := by
      decide +kernel
    obtain ⟨body, hbody, hpending⟩ := Option.map_eq_some_iff.mp hpending
    have hsteady : body.Steady := by
      intro d hd
      rw [hpending] at hd
      simp only [List.mem_cons, List.not_mem_nil, or_false] at hd
      rcases hd with rfl | rfl | rfl <;> exact ⟨_, rfl⟩
    have hoctets : body.octets = [1, 2, 3] := by
      rw [Source.octets, hpending]
      rfl
    obtain ⟨r, c', hrun, haccounted⟩ := hdownload s "b" ⟨{}, some {}, fun held => held == 2⟩ {}
      threeOctetsWire w₁ _ 3 body rfl (Prod.ext hlength rfl)
      (Prod.ext (eq_ok_of_toOption hbody) rfl) hsteady ⟨fun _ _ => le_rfl, rfl⟩
    obtain ⟨n, htally⟩ := haccounted.exit
    refine ⟨r, c', _, hrun, n, ?_⟩
    rw [htally.sink_eq, hoctets]
    rfl

end RemoteSql
