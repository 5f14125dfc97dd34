import Mathlib
import RemoteSql.Proofs.Cursor.Fault
import RemoteSql.Proofs.Cursor.Scanned
import RemoteSql.Proofs.Envelope.Document
import RemoteSql.Proofs.Json.Printing

/-!
# The verdict on a payload

An envelope is decoded from the whole document at once. A cursor gathers the same fields one by one
from a scan and leaves the rows unread. Where the document is an object both judge it alike: what
the one calls a failure the other fails with, and the row count that it declares is kept to.
-/

namespace RemoteSql

open Payload (rowsField)

namespace Envelope

variable (members : Json.Members) (http : HttpStatus)

theorem get?_erase_rows {key : String} (h : key ≠ rowsField) :
    (members.erase rowsField).get? key = members.get? key :=
  SortedMap.get?_erase_of_ne h members

/-- The rows have no part in the verdict. -/
theorem statusOf_erase_rows : statusOf (members.erase rowsField) = statusOf members := by
  rw [statusOf, get?_erase_rows members (by decide), ← statusOf]

theorem detailOf_erase_rows : detailOf (members.erase rowsField) = detailOf members := by
  have hkeys : ∀ key ∈ ["error_type", "error_message", "stack_trace", "http_status"],
      key ≠ rowsField := by decide
  simp only [List.forall_mem_cons] at hkeys
  obtain ⟨htype, hmessage, htrace, hstatus, -⟩ := hkeys
  simp only [detailOf, get?_erase_rows members htype, get?_erase_rows members hmessage,
    get?_erase_rows members htrace, get?_erase_rows members hstatus]

/-- How many rows a result says there are, of those that were received. -/
def usedRows (e : Envelope) (received : Nat) : Except Error Nat :=
  match e.integer? "row_count" with
  | none => .ok received
  | some n =>
    if n < 0 then .error (.protocol (.negativeRowCount n))
    else if (received : Int) < n then .error (.protocol (.missingRows n.toNat received))
    else .ok n.toNat

theorem usedRows_le {e : Envelope} {received n : Nat} (h : e.usedRows received = .ok n) :
    n ≤ received := by
  unfold usedRows at h
  split at h
  · cases h
    exact le_rfl
  · split at h
    · cases h
    · split at h
      · cases h
      · cases h
        omega

theorem incidental_usedRows (e : Envelope) (received : Nat) :
    FailsOnly Error.Incidental (e.usedRows received) := by
  unfold usedRows
  split
  · exact .ok _
  · split
    · exact .error (Error.incidental_protocol _)
    · split
      · exact .error (Error.incidental_protocol _)
      · exact .ok _

theorem isOk_eq_false_iff {e : Envelope} :
    e.isOk = false ↔ ∃ detail, e.error? = some (.server detail e.http) := by
  rcases e with ⟨document | detail, http⟩ <;> simp [isOk, error?, detail?]

end Envelope

namespace Cursor

variable {payload : Bytes} {layout : Layout} {members : Json.Members} {rows : List Json}

/-- The fields that a scan gathers get the verdict that the whole document gets. -/
theorem ofPayload_of_failure (hscan : Payload.scan payload = .ok layout)
    (hfields : layout.fields = members.erase rowsField) {status : HttpStatus} {e : Error}
    (h : (Envelope.ofDocument members status).error? = some e) :
    ofPayload payload status = .error e := by
  have hverdict : (Envelope.ofDocument layout.fields status).toExcept = .error e := by
    unfold Envelope.ofDocument at h ⊢
    rw [hfields, Envelope.statusOf_erase_rows, Envelope.detailOf_erase_rows]
    rcases hstatus : Envelope.statusOf members with - | - | -
    · rw [hstatus] at h
      exact congrArg Except.error (Option.some.inj h)
    · rw [hstatus] at h
      cases h
    · rw [hstatus] at h
      exact congrArg Except.error (Option.some.inj h)
  rw [ofPayload, hscan]
  simp only [hverdict]
  rfl

/-- A success opens with the rows that it says there are. -/
theorem ofPayload_of_success (hscan : Payload.scan payload = .ok layout)
    (hfields : layout.fields = members.erase rowsField) {status : HttpStatus}
    (h : (Envelope.ofDocument members status).isOk = true) :
    ofPayload payload status =
      ((Envelope.ofDocument members status).usedRows layout.rowOffsets.length).bind
        (ofLayout payload layout) := by
  have hstatus : Envelope.statusOf members = some .ok := Envelope.isOk_ofDocument_iff.mp h
  have hok : Envelope.statusOf layout.fields = some .ok := by
    rw [hfields, Envelope.statusOf_erase_rows, hstatus]
  have hinteger : Envelope.integer? ⟨.success layout.fields, status⟩ "row_count" =
      Envelope.integer? ⟨.success members, status⟩ "row_count" := by
    simp only [Envelope.integer?, Envelope.document, hfields, Option.bind_some]
    rw [Envelope.get?_erase_rows members (by decide)]
  rw [ofPayload_of_scan hscan hok, Envelope.ofDocument_of_ok hstatus, Envelope.rowCount, hinteger, Envelope.usedRows]
  rcases Envelope.integer? ⟨.success members, status⟩ "row_count" with - | n
  · rfl
  · by_cases hnegative : n < 0
    · simp only [if_pos hnegative, Except.bind]
    · by_cases hmissing : (layout.rowOffsets.length : Int) < n
      · have hlt : layout.rowOffsets.length < n.toNat := by omega
        simp only [if_neg hnegative, if_pos hmissing]
        simp only [Except.bind, ofLayout, if_pos hlt]
      · simp only [if_neg hnegative, if_neg hmissing]

theorem opens_of_success (hscan : Payload.scan payload = .ok layout)
    (hfields : layout.fields = members.erase rowsField)
    (hat : List.Forall₂ (Payload.RowAt payload) layout.rowOffsets rows) {status : HttpStatus}
    (hok : (Envelope.ofDocument members status).isOk = true) :
    Opens rows ((Envelope.ofDocument members status).usedRows rows.length)
      (ofPayload payload status) := by
  rw [ofPayload_of_success hscan hfields hok, hat.length_eq]
  cases hused : (Envelope.ofDocument members status).usedRows rows.length with
  | error e => exact .refused e
  | ok n => exact opens_ofLayout hat (Envelope.usedRows_le hused)

theorem Opens.incidental {used : Except Error Nat} {opening : Except Error Cursor}
    (h : Opens rows used opening) (hused : FailsOnly Error.Incidental used) :
    FailsOnly Error.Incidental opening := by
  cases h with
  | refused e => exact .error (hused e rfl)
  | opened c => exact .ok c
  | firstRow _ _ he => exact .error (incidental_cells 1 _ _ he)

/-- A cursor fails with an error of the server exactly if the envelope of the same body is a
failure, and then with the error of that envelope. If it is a success, the cursor keeps to the row
count that the envelope declares, or else to the number of rows, and only a first row that is none
can be in its way. -/
theorem ofResponse_agrees {body : String} {r : Response}
    (hparse : Json.parse? (Utf8.encode body) = some (.object members))
    (hcount : (SortedMap.keys (Json.writtenMembers (Utf8.encode body))).count rowsField ≤ 1)
    (hrows : ∀ v, members.get? rowsField = some v → v = .null ∨ ∃ vs, v = .array vs)
    (hoctets : r.body.octets = Utf8.encode body) (hunfailing : r.body.Unfailing)
    (hhead : r.body.pending.head? ≠ some .interruption) :
    ((∃ detail http, ofResponse r = .error (.server detail http)) ↔
      (Envelope.decode body r.status).isOk = false) ∧
    (∀ e, (Envelope.decode body r.status).error? = some e → ofResponse r = .error e) ∧
    ∀ rows, ((members.get? rowsField).bind Json.items?).getD [] = rows →
      (Envelope.decode body r.status).isOk = true →
      Opens rows ((Envelope.decode body r.status).usedRows rows.length) (ofResponse r) := by
  obtain ⟨layout, hscan, hfields, hat⟩ := Payload.scan_of_object hparse hcount hrows
  obtain ⟨spaces, text, rest, hbody, hs, -⟩ := Json.exists_object_of_parse? hparse
  have hgzip : Gzip.isGzip r.body.octets = false := by
    rw [hoctets, hbody]
    exact Payload.isGzip_eq hs _
  have hopening : ofResponse r = ofPayload (Utf8.encode body) r.status := by
    rw [ofResponse, Source.plain_eq hunfailing hhead hgzip, hoctets]
  have hdecode : Envelope.decode body r.status = Envelope.ofDocument members r.status := by
    rw [Envelope.decode, Envelope.document?_of_parse? hparse]
  rw [hopening, hdecode]
  have hfails : ∀ e, (Envelope.ofDocument members r.status).error? = some e →
      ofPayload (Utf8.encode body) r.status = .error e :=
    fun e he => ofPayload_of_failure hscan hfields he
  refine ⟨⟨?_, ?_⟩, hfails, ?_⟩
  · rintro ⟨detail, http, herror⟩
    by_contra hok
    rw [Bool.not_eq_false] at hok
    have hincidental := (opens_of_success hscan hfields hat hok).incidental
      (Envelope.incidental_usedRows _ _) _ herror
    exact hincidental.2 rfl
  · intro hfailure
    obtain ⟨detail, hdetail⟩ := Envelope.isOk_eq_false_iff.mp hfailure
    exact ⟨detail, _, hfails _ hdetail⟩
  · rintro rows rfl hok
    exact opens_of_success hscan hfields hat hok

theorem ofResponse_agrees_missing_row :
    ∃ body : String,
      body = " \x7b\"query_rows\":[[]], \"row_count\":\"2\", \"status\":\"ok\"\x7d " ∧
      ofResponse ⟨.ofBytes (Utf8.encode body), ⟨500, "Internal Server Error"⟩⟩ =
        .error (.protocol (.missingRows 2 1)) := by
  obtain ⟨body, hbody, hlength, hcount, hok, hused⟩ : ∃ body : String,
      body = " \x7b\"query_rows\":[[]], \"row_count\":\"2\", \"status\":\"ok\"\x7d " ∧
      ((Json.parse? (Utf8.encode body)).bind Json.members?).map (fun members =>
        ((members.get? rowsField).bind Json.items?).map List.length) = some (some 1) ∧
      (SortedMap.keys (Json.writtenMembers (Utf8.encode body))).count rowsField ≤ 1 ∧
      (Envelope.decode body ⟨500, "Internal Server Error"⟩).isOk = true ∧
      fault? ((Envelope.decode body ⟨500, "Internal Server Error"⟩).usedRows 1) =
        some (.protocol (.missingRows 2 1)) :=
    ⟨_, rfl, by decide +kernel, by decide +kernel, by decide +kernel, by decide +kernel⟩
  obtain ⟨members, hmembers, hlength⟩ := Option.map_eq_some_iff.mp hlength
  obtain ⟨v, hparse, hv⟩ := Option.bind_eq_some_iff.mp hmembers
  obtain rfl := Json.members?_eq_some_iff.mp hv
  obtain ⟨vs, hitems, hone⟩ := Option.map_eq_some_iff.mp hlength
  obtain ⟨v, hget, harray⟩ := Option.bind_eq_some_iff.mp hitems
  obtain rfl := Json.items?_eq_some_iff.mp harray
  have hrows : ∀ v, members.get? rowsField = some v → v = .null ∨ ∃ vs, v = .array vs := by
    intro v hv
    rw [hget] at hv
    cases hv
    exact Or.inr ⟨vs, rfl⟩
  have hagrees := ofResponse_agrees
    (r := ⟨.ofBytes (Utf8.encode body), ⟨500, "Internal Server Error"⟩⟩) hparse hcount hrows
    (Source.octets_ofBytes _) (Source.unfailing_ofBytes _) (Source.head?_ofBytes _)
  have hopens := hagrees.2.2 vs (by rw [hitems, Option.getD_some]) hok
  rw [hone, eq_error_of_fault? hused] at hopens
  exact ⟨body, hbody, hopens.eq_error⟩

/-- The whole of an object whose first name is the reserved one is taken for a number, and its
members one by one are not. -/
theorem ofResponse_disagrees_numberName :
    ∃ body : String,
      Json.Spells Json.maxDepth (.object [(Json.numberName, .string "1"), ("status", .string "OK"),
        (rowsField, .array [])]) (Utf8.encode body) ∧
      (Envelope.decode body ⟨200, "OK"⟩).isOk = false ∧
      ∃ c, ofResponse ⟨.ofBytes (Utf8.encode body), ⟨200, "OK"⟩⟩ = .ok c := by
  obtain ⟨body, hspells, hfailure, hgzip, hopens⟩ : ∃ body : String,
      Json.Spells Json.maxDepth (.object [(Json.numberName, .string "1"), ("status", .string "OK"),
        (rowsField, .array [])]) (Utf8.encode body) ∧
      (Envelope.decode body ⟨200, "OK"⟩).isOk = false ∧ Gzip.isGzip (Utf8.encode body) = false ∧
      (ofPayload (Utf8.encode body) ⟨200, "OK"⟩).toOption.isSome = true := by
    refine ⟨(Json.object [(Json.numberName, .string "1"), ("status", .string "OK"),
      (rowsField, .array [])]).render, Json.spells_render ?_, ?_, ?_, ?_⟩
    · simp [Json.maxDepth, Json.NestsWithin]
    · decide +kernel
    · decide +kernel
    · decide +kernel
  obtain ⟨c, hc⟩ := Option.isSome_iff_exists.mp hopens
  refine ⟨body, hspells, hfailure, c, ?_⟩
  rw [ofResponse_ofBytes hgzip]
  exact eq_ok_of_toOption hc

end Cursor

end RemoteSql
