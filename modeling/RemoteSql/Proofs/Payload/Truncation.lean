import Mathlib
import RemoteSql.Cursor.Open
import RemoteSql.Proofs.Payload.Locality
import RemoteSql.Proofs.Stream.Delivery

/-!
# Cut payloads are refused

The scanner of a payload shows its own end, so a payload that was accepted up to some octet cannot
be accepted when it ends before that octet: with the missing octets put back, the shorter stretch
would be taken again. Whatever the scanner refuses it refuses with a protocol error.
-/

namespace RemoteSql.Payload

variable {α β σ : Type}

/-- Work that fails with nothing but protocol errors. -/
def ProtocolOnly (x : Except Error α) : Prop := ∀ e, x = .error e → ∃ fault, e = .protocol fault

namespace ProtocolOnly

theorem ok (a : α) : ProtocolOnly (.ok a) := by
  intro e h
  cases h

theorem malformed (offset : Nat) (fault : PayloadFault) :
    ProtocolOnly (.error (Payload.malformed offset fault) : Except Error α) := by
  intro e h
  cases h
  exact ⟨_, rfl⟩

theorem bind {x : Except Error α} {f : α → Except Error β} (hx : ProtocolOnly x)
    (hf : ∀ a, ProtocolOnly (f a)) : ProtocolOnly (x >>= f) := by
  intro e h
  cases hr : x with
  | error e' =>
    rw [hr] at h
    cases h
    exact hx e hr
  | ok a =>
    rw [hr] at h
    exact hf a e h

theorem map {x : Except Error α} (hx : ProtocolOnly x) (f : α → β) : ProtocolOnly (x.map f) := by
  intro e h
  cases hr : x with
  | error e' =>
    rw [hr] at h
    cases h
    exact hx e hr
  | ok a =>
    rw [hr] at h
    cases h

end ProtocolOnly

theorem protocolOnly_decode (read? : Bytes → Option α) (out : Store) :
    ProtocolOnly (decode read? out) := by
  unfold decode
  split
  · exact .ok _
  · intro e h
    cases h
    exact ⟨_, rfl⟩

theorem protocolOnly_expect (s : Rest) (b : UInt8) (fault : PayloadFault) :
    ProtocolOnly (s.expect b fault) := by
  unfold Rest.expect
  split
  · split
    · exact .ok _
    · exact .malformed _ _
  · exact .malformed _ _

theorem protocolOnly_copyText (escaped : Bool) (o : Nat) (out : Store) (bs : Bytes) :
    ProtocolOnly (copyText escaped o out bs) := by
  induction bs generalizing escaped o out with
  | nil => exact .malformed _ _
  | cons b bs ih =>
    rw [copyText]
    split
    · exact ih _ _ _
    · split
      · exact ih _ _ _
      · split
        · exact .ok _
        · exact ih _ _ _

theorem protocolOnly_copyString (s : Rest) (out : Store) : ProtocolOnly (copyString s out) := by
  unfold copyString
  split
  · exact .malformed _ _
  · exact protocolOnly_copyText _ _ _ _

theorem protocolOnly_copyBrackets (n : Nesting) (o : Nat) (out : Store) (bs : Bytes) :
    ProtocolOnly (copyBrackets n o out bs) := by
  induction bs generalizing n o out with
  | nil => exact .malformed _ _
  | cons b bs ih =>
    rw [copyBrackets]
    split
    · exact .ok _
    · exact ih _ _ _

theorem protocolOnly_copyValue (s : Rest) (out : Store) : ProtocolOnly (copyValue s out) := by
  unfold copyValue
  dsimp only
  split
  · exact .malformed _ _
  · split
    · exact protocolOnly_copyString _ _
    · split
      · exact protocolOnly_copyBrackets _ _ _ _
      · split
        · exact .malformed _ _
        · exact .ok _

theorem protocolOnly_separated {item : Rest → σ → Except Error (σ × Rest)}
    (hitem : ∀ s found, ProtocolOnly (item s found)) (close : UInt8) (fault : PayloadFault)
    (fuel : Nat) (s : Rest) (found : σ) :
    ProtocolOnly (separated item close fault fuel s found) := by
  induction fuel generalizing s found with
  | zero => exact .malformed _ _
  | succ fuel ih =>
    apply (hitem s found).bind
    intro r
    obtain ⟨found₁, s₁⟩ := r
    dsimp only
    split
    · exact .malformed _ _
    · split
      · exact ih _ _
      · split
        · exact .ok _
        · exact .malformed _ _

theorem protocolOnly_listed {item : Rest → σ → Except Error (σ × Rest)}
    (hitem : ∀ s found, ProtocolOnly (item s found)) (close : UInt8) (fault : PayloadFault)
    (s : Rest) (found : σ) : ProtocolOnly (listed item close fault s found) := by
  unfold listed
  dsimp only
  split
  · exact .ok _
  · exact protocolOnly_separated hitem _ _ _ _ _

theorem protocolOnly_rows (s : Rest) (offsets : List Nat) : ProtocolOnly (rows s offsets) := by
  unfold rows
  dsimp only
  split
  · exact .malformed _ _
  · split
    · exact protocolOnly_listed (fun s offsets => (protocolOnly_copyValue _ none).map _) _ _ _ _
    · split
      · exact (protocolOnly_copyValue _ none).map _
      · exact .malformed _ _

theorem protocolOnly_fieldName (s : Rest) : ProtocolOnly (fieldName s) := by
  unfold fieldName
  dsimp only
  split
  · exact (protocolOnly_copyString _ _).bind fun r => (protocolOnly_decode _ _).bind fun name =>
      (protocolOnly_expect _ _ _).bind fun s => .ok _
  · exact .malformed _ _

theorem protocolOnly_field (s : Rest) (layout : Layout) : ProtocolOnly (field s layout) := by
  apply (protocolOnly_fieldName s).bind
  intro r
  dsimp only
  unfold fieldValue
  split
  · exact (protocolOnly_rows _ _).map _
  · exact (protocolOnly_copyValue _ _).bind fun r => (protocolOnly_decode _ _).bind fun v => .ok _

theorem protocolOnly_scan (payload : Bytes) : ProtocolOnly (scan payload) :=
  ProtocolOnly.map ((protocolOnly_expect _ _ _).bind fun _ =>
    (protocolOnly_listed protocolOnly_field _ _ _ _).bind fun _ => .ok _) _

/-! ## Cutting a payload -/

theorem scan_eq_ok_iff {payload : Bytes} {layout : Layout} :
    scan payload = .ok layout ↔ ∃ s, scanObject payload = .ok (layout, s) := by
  constructor
  · intro h
    obtain ⟨r, hr, rfl⟩ := exists_of_map_eq_ok h
    exact ⟨r.2, hr⟩
  · rintro ⟨s, hs⟩
    rw [scan, hs]
    rfl

/-- A payload cannot be accepted when it ends before the octet where a longer one stops. -/
theorem scanObject_ne_ok_of_cut {payload cut : Bytes} {layout layout' : Layout} {s s' : Rest}
    (h : scanObject payload = .ok (layout, s)) (hcut : cut <+: payload)
    (hlt : cut.length < s.offset) : scanObject cut ≠ .ok (layout', s') := by
  intro hshort
  obtain ⟨tail, rfl⟩ := hcut
  obtain ⟨body, rfl, hrest⟩ := scanObject_local hshort
  -- Before the octets that were cut off, the scanner takes the shorter stretch again.
  have hlong := hrest (s'.octets ++ tail)
  rw [List.append_assoc, List.cons_append, hlong] at h
  cases h
  simp only [List.length_append, List.length_cons] at hlt
  omega

/-- A payload that is accepted does not look like a gzip member, and no more does a part of it. -/
theorem isGzip_of_cut {payload cut : Bytes} {r : Layout × Rest}
    (h : scanObject payload = .ok r) (hcut : cut <+: payload) : Gzip.isGzip cut = false := by
  obtain ⟨tail, rfl⟩ := hcut
  rw [scanObject] at h
  obtain ⟨s, hopen, -⟩ := exists_of_bind_eq_ok h
  obtain ⟨blanks, hbs, hb, -⟩ := exists_blanks_of_expect hopen
  have hhead : ∀ b ∈ (cut ++ tail).head?, b ≠ 0x1F := by
    intro b hhead
    dsimp only at hbs
    rw [hbs] at hhead
    cases blanks with
    | nil =>
      obtain rfl : b = Ascii.openBrace := by simpa [eq_comm] using hhead
      decide
    | cons c blanks =>
      obtain rfl : b = c := by simpa [eq_comm] using hhead
      rintro rfl
      exact absurd (hb 0x1F List.mem_cons_self) (by decide)
  rcases cut with - | ⟨a, - | ⟨b, cut⟩⟩
  · rfl
  · rfl
  · simp [Gzip.isGzip, hhead a rfl]

theorem exists_fault_of_cut {payload cut : Bytes} {layout : Layout} {s : Rest}
    (h : scanObject payload = .ok (layout, s)) (hcut : cut <+: payload)
    (hlt : cut.length < s.offset) : ∃ fault, scan cut = .error (.protocol fault) := by
  cases hc : scan cut with
  | ok layout' =>
    obtain ⟨s', hs'⟩ := scan_eq_ok_iff.mp hc
    exact absurd hs' (scanObject_ne_ok_of_cut h hcut hlt)
  | error e =>
    obtain ⟨fault, rfl⟩ := protocolOnly_scan cut e hc
    exact ⟨fault, rfl⟩

/-! ## Opening a cursor on what the scanner refuses -/

section Refused

variable {payload : Bytes} {fault : ProtocolFault} (h : scan payload = .error (.protocol fault))
  {r : Response}

include h

theorem openPayload_of_refused (rowCount : Nat) :
    Cursor.openPayload payload rowCount = .error (.protocol fault) := by
  rw [Cursor.openPayload, h]
  rfl

theorem ofPayload_of_refused (status : HttpStatus) :
    Cursor.ofPayload payload status = .error (if status.code = 200 then .protocol fault
      else .server (Envelope.httpFailureDetail status) status) := by
  simp [Cursor.ofPayload, h, HttpStatus.isSuccess]

theorem ofResponse_of_refused (hplain : r.body.plain = .ok payload) :
    Cursor.ofResponse r = .error (if r.status.code = 200 then .protocol fault
      else .server (Envelope.httpFailureDetail r.status) r.status) := by
  rw [Cursor.ofResponse, hplain]
  exact ofPayload_of_refused h r.status

/-- However the octets are delivered, and whether or not they are delivered at all. -/
theorem ofResponse_ne_ok_of_refused (hgzip : Gzip.isGzip r.body.octets = false)
    (hoctets : r.body.octets = payload) (c : Cursor) : Cursor.ofResponse r ≠ .ok c := by
  cases hplain : r.body.plain with
  | error e =>
    rw [Cursor.ofResponse, hplain]
    intro hok
    cases hok
  | ok bs =>
    have hbs : bs = payload := (Source.eq_octets_of_plain hgzip hplain).trans hoctets
    rw [ofResponse_of_refused h (hbs ▸ hplain)]
    intro hok
    cases hok

end Refused

/-- A payload that the scanner accepts ends, as far as the scanner cares, with a brace. What
follows the brace does not matter, and without the brace, or with less, every way of opening a
cursor on the payload fails: with a protocol error, except that another HTTP status than 200 is
reported as what it is. -/
theorem scan_of_cut {payload : Bytes} {layout : Layout} (h : scan payload = .ok layout) :
    ∃ stop rest, scanObject payload = .ok (layout, ⟨stop, rest⟩) ∧
      (∃ body, payload = body ++ Ascii.closeBrace :: rest ∧ stop = body.length + 1) ∧
      (∀ other : Bytes, other.take stop = payload.take stop → scan other = .ok layout) ∧
      ∀ cut, cut <+: payload → cut.length < stop →
        (∃ fault, scan cut = .error (.protocol fault)) ∧
        (∀ rowCount, ∃ fault, Cursor.openPayload cut rowCount = .error (.protocol fault)) ∧
        (∀ r : Response, r.body.octets = cut → ∀ c, Cursor.ofResponse r ≠ .ok c) ∧
        ∀ r : Response, r.body.octets = cut → r.body.Unfailing →
          r.body.pending.head? ≠ some .interruption →
          if r.status.code = 200 then ∃ fault, Cursor.ofResponse r = .error (.protocol fault)
          else Cursor.ofResponse r =
            .error (.server (Envelope.httpFailureDetail r.status) r.status) := by
  obtain ⟨⟨stop, rest⟩, hs⟩ := scan_eq_ok_iff.mp h
  obtain ⟨body, hbody, hlocal⟩ := scanObject_local hs
  dsimp only at hbody
  have hstop : stop = body.length + 1 := by
    have hagain := hlocal rest
    rw [← hbody, hs] at hagain
    cases hagain
    rfl
  refine ⟨stop, rest, hs, ⟨body, hbody, hstop⟩, ?_, ?_⟩
  · intro other hother
    have htake : payload.take stop = body ++ [Ascii.closeBrace] := by
      rw [hbody, hstop, List.take_append]
      simp
    have hother' : other = body ++ Ascii.closeBrace :: other.drop stop := by
      conv_lhs => rw [← List.take_append_drop stop other, hother, htake]
      simp
    rw [hother']
    exact scan_eq_ok_iff.mpr ⟨_, hlocal _⟩
  · intro cut hcut hlt
    obtain ⟨fault, hfault⟩ := exists_fault_of_cut hs hcut hlt
    have hgzip : ∀ r : Response, r.body.octets = cut → Gzip.isGzip r.body.octets = false :=
      fun r hoctets => hoctets ▸ isGzip_of_cut hs hcut
    refine ⟨⟨fault, hfault⟩, fun rowCount => ⟨fault, openPayload_of_refused hfault rowCount⟩,
      fun r hoctets => ofResponse_ne_ok_of_refused hfault (hgzip r hoctets) hoctets,
      ?_⟩
    intro r hoctets hunfailing hhead
    have hplain : r.body.plain = .ok cut :=
      hoctets ▸ Source.plain_eq hunfailing hhead (hgzip r hoctets)
    rw [ofResponse_of_refused hfault hplain]
    split
    · exact ⟨fault, rfl⟩
    · rfl

theorem scan_of_cut_two_rows :
    scan (Utf8.encode "\x7b\"a\":1,\"query_rows\":[[],2]\x7d ") =
        .ok ⟨[("a", .number "1")], [21, 24]⟩ ∧
      ∃ fault, scan ((Utf8.encode "\x7b\"a\":1,\"query_rows\":[[],2]\x7d ").take 25) =
        .error (.protocol fault) := by
  have h : scan (Utf8.encode "\x7b\"a\":1,\"query_rows\":[[],2]\x7d ") =
      .ok ⟨[("a", .number "1")], [21, 24]⟩ := by cbv
  have hs' : scanObject (Utf8.encode "\x7b\"a\":1,\"query_rows\":[[],2]\x7d ") =
      .ok (⟨[("a", .number "1")], [21, 24]⟩, ⟨27, [0x20]⟩) := by cbv
  obtain ⟨stop, rest, hs, -, -, hcut⟩ := scan_of_cut h
  obtain rfl : stop = 27 := by
    rw [hs] at hs'
    cases hs'
    rfl
  refine ⟨h, (hcut _ (List.take_prefix 25 _) ?_).1⟩
  exact Nat.lt_of_le_of_lt (List.length_take_le 25 _) (by decide)

end RemoteSql.Payload
