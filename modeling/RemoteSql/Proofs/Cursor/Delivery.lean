import Mathlib
import RemoteSql.Proofs.Cursor.Scanned
import RemoteSql.Proofs.Payload.Truncation

/-!
# Bodies in pieces

How a body is delivered does not matter to a cursor, as long as the first read tells whether the
body is a gzip member. A first read that does not tell fails the opening; it never leads to other
rows.
-/

namespace RemoteSql

namespace Gzip

theorem isGzip_append {bs bs' : Bytes} (h : isGzip (bs ++ bs') = true) (hlength : 2 ≤ bs.length) :
    isGzip bs = true := by
  rcases bs with - | ⟨a, - | ⟨b, bs⟩⟩
  · simp at hlength
  · simp at hlength
  · simpa [isGzip] using h

theorem isGzip_of_member {bs held : Bytes} (h : member bs = .ok held) : isGzip bs = true := by
  unfold member at h
  obtain ⟨rest, hheader, -⟩ := exists_of_bind_eq_ok h
  unfold skipHeader at hheader
  obtain ⟨⟨magic, rest₁⟩, hmagic, hheader⟩ := exists_of_bind_eq_ok hheader
  obtain ⟨⟨method, rest₂⟩, -, hheader⟩ := exists_of_bind_eq_ok hheader
  obtain ⟨⟨flags, rest₃⟩, -, hheader⟩ := exists_of_bind_eq_ok hheader
  obtain ⟨rest₄, -, hheader⟩ := exists_of_bind_eq_ok hheader
  have hnumber : magic = 0x8B1F := by
    by_contra hne
    dsimp only at hheader
    rw [if_pos (Or.inl hne)] at hheader
    cases hheader
  unfold readNumber at hmagic
  split at hmagic
  · cases hmagic
  · next hlength =>
    obtain ⟨a, b, tail, rfl⟩ : ∃ a b tail, bs = a :: b :: tail := by
      rcases bs with - | ⟨a, - | ⟨b, tail⟩⟩
      · simp at hlength
      · simp at hlength
      · exact ⟨a, b, tail, rfl⟩
    obtain ⟨hmagic, -⟩ := Prod.mk.inj (Except.ok.inj hmagic)
    rw [hnumber] at hmagic
    simp only [List.take_succ_cons, List.take_zero, littleEndian] at hmagic
    have ha := a.toNat_lt
    have hb := b.toNat_lt
    have ha' : a = 0x1F := UInt8.toNat_inj.mp (show a.toNat = 0x1F by omega)
    have hb' : b = 0x8B := UInt8.toNat_inj.mp (show b.toNat = 0x8B by omega)
    rw [ha', hb']
    rfl

end Gzip

namespace Source

/-- The first read is not broken off, and of a gzip member it yields the two octets by which a
member is known. -/
def Tells (s : Source) : Prop :=
  ∃ first, (s.read bufferSize).1 = .ok first ∧ (Gzip.isGzip s.octets = true → 2 ≤ first.length)

variable {s : Source}

/-- After its first read, a source that never fails for good is judged by all of its octets. -/
theorem plain_of_read (hs : s.Unfailing) {first : Bytes} {s' : Source}
    (hread : s.read bufferSize = (.ok first, s')) :
    s.plain = if Gzip.isGzip first then (Gzip.member s.octets).mapError fun _ => .corrupt
      else .ok s.octets := by
  obtain ⟨hoctets, -, hs'⟩ := octets_of_read (by decide) hread
  have hnone := gather_snd (hs' hs) first.toArray
  have hall := gather_of_none hnone
  unfold plain
  rw [hread]
  dsimp only
  rcases hgather : s'.gather first.toArray with ⟨out, fault?⟩
  rw [hgather] at hnone hall
  dsimp only at hnone hall ⊢
  rw [hnone, hall, ← hoctets]
  split
  · rcases Gzip.member s.octets with stop | held
    · cases stop <;> rfl
    · rfl
  · rfl

variable {p : Bytes}

theorem plain_of_tells (hs : s.Unfailing) (hp : Gzip.isGzip p = false)
    (hbody : s.octets = p ∨ Gzip.member s.octets = .ok p) (htells : s.Tells) :
    s.plain = .ok p := by
  obtain ⟨first, hfirst, hlength⟩ := htells
  obtain ⟨s', hread⟩ : ∃ s', s.read bufferSize = (.ok first, s') := ⟨_, Prod.ext hfirst rfl⟩
  obtain ⟨hoctets, -⟩ := octets_of_read (by decide) hread
  rw [plain_of_read hs hread]
  rcases hbody with hplain | hmember
  · have hplainFirst : Gzip.isGzip first = false := isGzip_of_append (by rwa [← hoctets, hplain])
    rw [hplainFirst, hplain]
    rfl
  · have hgzip := Gzip.isGzip_of_member hmember
    have hgzipFirst : Gzip.isGzip first = true :=
      Gzip.isGzip_append (hoctets ▸ hgzip) (hlength hgzip)
    rw [hgzipFirst, hmember]
    rfl

/-- A first read that does not tell is broken off, or it makes a gzip member pass for plain. -/
theorem plain_of_not_tells (hs : s.Unfailing) (htells : ¬s.Tells) :
    s.plain = .error .interrupted ∨ s.plain = .ok s.octets ∧ Gzip.isGzip s.octets = true := by
  rcases hread : s.read bufferSize with ⟨fault | first, s'⟩
  · obtain rfl := hs.eq_interrupted hread
    left
    unfold plain
    rw [hread]
  · right
    have hshort : Gzip.isGzip s.octets = true ∧ first.length < 2 := by
      by_contra hlong
      refine htells ⟨first, by rw [hread], fun hgzip => ?_⟩
      by_contra hlength
      exact hlong ⟨hgzip, by omega⟩
    have hfirst : Gzip.isGzip first = false := by
      rcases first with - | ⟨a, - | ⟨b, tail⟩⟩
      · rfl
      · rfl
      · simp at hshort
    rw [plain_of_read hs hread, hfirst]
    exact ⟨rfl, hshort.1⟩

section Faulty

variable (bs : Bytes) (interruptAt : Option Nat) (failText : String) (limit : Option Nat)

theorem octets_faulty : (faulty bs interruptAt none failText limit).octets = bs := by
  have hall : ∀ bs : Bytes, (bs.map Delivery.octet).filterMap Delivery.octet? = bs := by
    intro bs
    simp [List.filterMap_map, Function.comp_def, Delivery.octet?]
  unfold faulty octets
  cases interruptAt with
  | none => simp [hall]
  | some n =>
    dsimp only
    split
    · rw [List.append_nil, List.filterMap_append, List.filterMap_cons_none rfl, hall, hall,
        List.take_append_drop]
    · rw [List.append_nil, hall]

theorem unfailing_faulty : (faulty bs interruptAt none failText limit).Unfailing := by
  have hall : ∀ (bs : Bytes) (text : String), Delivery.failure text ∉ bs.map Delivery.octet := by
    intro bs text hmem
    obtain ⟨b, -, hb⟩ := List.mem_map.mp hmem
    cases hb
  intro text hmem
  unfold faulty at hmem
  cases interruptAt with
  | none =>
    dsimp only at hmem
    rw [List.append_nil] at hmem
    exact hall bs text hmem
  | some n =>
    dsimp only at hmem
    split at hmem
    · rw [List.append_nil, List.mem_append, List.mem_cons] at hmem
      rcases hmem with hmem | hmem | hmem
      · exact hall _ text hmem
      · cases hmem
      · exact hall _ text hmem
    · rw [List.append_nil] at hmem
      exact hall bs text hmem

end Faulty

end Source

namespace Cursor

/-- The octets of a gzip member are no payload. -/
theorem ofPayload_of_isGzip {bs : Bytes} (h : Gzip.isGzip bs = true) (status : HttpStatus) :
    ∃ e, ofPayload bs status = .error e := by
  cases hscan : Payload.scan bs with
  | ok layout =>
    obtain ⟨rest, hobject⟩ := Payload.scan_eq_ok_iff.mp hscan
    have hplain := Payload.isGzip_of_cut hobject (List.prefix_refl bs)
    rw [h] at hplain
    cases hplain
  | error e =>
    obtain ⟨fault, rfl⟩ := Payload.protocolOnly_scan bs e hscan
    exact ⟨_, Payload.ofPayload_of_refused hscan status⟩

/-- A first read that does not tell never leads to a cursor. -/
theorem exists_error_of_not_tells {s : Source} (hs : s.Unfailing) (htells : ¬s.Tells)
    (status : HttpStatus) : ∃ e, ofResponse ⟨s, status⟩ = .error e := by
  rcases Source.plain_of_not_tells hs htells with hbroken | ⟨hoctets, hgzip⟩
  · rw [ofResponse, hbroken]
    exact ⟨_, rfl⟩
  · rw [ofResponse, hoctets]
    exact ofPayload_of_isGzip hgzip status

/-- A payload comes out of its source, plain or inflated, exactly if the first read tells which of
the two it is. Then it does not matter to the cursor how the octets were delivered, and otherwise
no cursor opens. -/
theorem ofResponse_of_delivery {s : Source} {p : Bytes} (hs : s.Unfailing)
    (hp : Gzip.isGzip p = false) (hbody : s.octets = p ∨ Gzip.member s.octets = .ok p)
    (status : HttpStatus) :
    (s.plain = .ok p ↔ s.Tells) ∧
    (s.Tells → ofResponse ⟨s, status⟩ = ofResponse ⟨.ofBytes p, status⟩) ∧
    (¬s.Tells → ∃ e, ofResponse ⟨s, status⟩ = .error e) := by
  refine ⟨⟨?_, Source.plain_of_tells hs hp hbody⟩, ?_,
    fun htells => exists_error_of_not_tells hs htells status⟩
  · intro hplain
    by_contra htells
    rcases Source.plain_of_not_tells hs htells with hbroken | ⟨hoctets, hgzip⟩
    · rw [hplain] at hbroken
      cases hbroken
    · rw [hplain, Except.ok.injEq] at hoctets
      rw [← hoctets, hp] at hgzip
      cases hgzip
  · intro htells
    rw [ofResponse_ofBytes hp, ofResponse, Source.plain_of_tells hs hp hbody htells]

def emptyResult : Bytes := Utf8.encode "\x7b\"status\":\"OK\",\"query_rows\":[]\x7d"

/-- A gzip member that stores it as it is. -/
def emptyResultMember : Bytes :=
  [31, 139, 8, 0, 0, 0, 0, 0, 0, 255, 1, 31, 0, 224, 255] ++ emptyResult ++
    [15, 35, 194, 216, 31, 0, 0, 0]

theorem member_emptyResult : Gzip.member emptyResultMember = .ok emptyResult :=
  eq_ok_of_toOption (by decide +kernel)

/-- The member in pieces of two octets, broken off within its header. -/
theorem ofResponse_of_delivery_brokenOff :
    ofResponse ⟨.faulty emptyResultMember (some 3) none "" (some 2), ⟨200, "OK"⟩⟩ =
      ofResponse ⟨.ofBytes emptyResult, ⟨200, "OK"⟩⟩ := by
  have hdelivery := ofResponse_of_delivery
    (Source.unfailing_faulty emptyResultMember (some 3) "" (some 2))
    (p := emptyResult) (by decide +kernel)
    (Or.inr (by rw [Source.octets_faulty, member_emptyResult])) ⟨200, "OK"⟩
  exact hdelivery.2.1 ⟨[31, 139], by decide +kernel, fun _ => by decide⟩

/-- The member octet by octet, which opens nothing, although the payload that it holds does. -/
theorem ofResponse_singleOctets :
    (Source.faulty emptyResultMember none none "" (some 1)).Unfailing ∧
    Gzip.member (Source.faulty emptyResultMember none none "" (some 1)).octets = .ok emptyResult ∧
    Gzip.isGzip emptyResult = false ∧
    (∃ c, ofResponse ⟨.ofBytes emptyResult, ⟨200, "OK"⟩⟩ = .ok c) ∧
    ∃ e, ofResponse ⟨.faulty emptyResultMember none none "" (some 1), ⟨200, "OK"⟩⟩ = .error e := by
  have hplain : Gzip.isGzip emptyResult = false := by decide +kernel
  have hopens : (ofPayload emptyResult ⟨200, "OK"⟩).toOption.isSome = true := by decide +kernel
  obtain ⟨c, hc⟩ := Option.isSome_iff_exists.mp hopens
  refine ⟨Source.unfailing_faulty _ _ _ _, ?_, hplain, ⟨c, ?_⟩, ?_⟩
  · rw [Source.octets_faulty, member_emptyResult]
  · rw [ofResponse_ofBytes hplain]
    exact eq_ok_of_toOption hc
  · apply exists_error_of_not_tells (Source.unfailing_faulty _ _ _ _)
    rintro ⟨first, hfirst, hlength⟩
    have hsingle : ((Source.faulty emptyResultMember none none "" (some 1)).read
        Source.bufferSize).1 = .ok [31] := by decide +kernel
    obtain rfl : [31] = first := Except.ok.inj (hsingle.symm.trans hfirst)
    have htwo : 2 ≤ [(31 : UInt8)].length := hlength (by rw [Source.octets_faulty]; decide)
    simp at htwo

end Cursor

end RemoteSql
