import Mathlib
import RemoteSql.Http.Action
import RemoteSql.Proofs.Envelope.Document
import RemoteSql.Proofs.SortedMap

/-!
# The verdict on a body

Whatever a body holds, the reply is either a success with a document or a failure with a report,
never both and never neither. What the body declares decides which: the last member named `status`
of the object that its text is. A body that declares nothing is reported by its HTTP status.
-/

namespace RemoteSql

namespace Json

/-- Of the members with a name, the one that is written last has this value. -/
def LastWritten (ms : List (String × Json)) (name : String) (v : Json) : Prop :=
  Since (· = (name, v)) (·.1 = name) ms

/-- The raw form of a value other than null: a string is its own, all else its compact text. -/
inductive RawText : Json → String → Prop
  | string (text : String) : RawText (.string text) text
  | number (literal : String) : RawText (.number literal) literal
  | yes : RawText (.bool true) "true"
  | no : RawText (.bool false) "false"
  | array (vs : List Json) : RawText (.array vs) (render (.array vs))
  | object (ms : Members) : RawText (.object ms) (render (.object ms))

theorem fieldText?_eq_none_iff {v : Json} : v.fieldText? = none ↔ v = .null := by
  cases v <;> simp [fieldText?]

theorem fieldText?_eq_some_iff {v : Json} {s : String} : v.fieldText? = some s ↔ RawText v s := by
  constructor
  · intro h
    cases v with
    | null => cases h
    | bool b =>
      cases h
      cases b
      · exact .no
      · exact .yes
    | number literal =>
      cases h
      rw [render, chars, String.ofList_toList]
      exact .number literal
    | string text =>
      cases h
      exact .string _
    | array vs =>
      cases h
      exact .array vs
    | object ms =>
      cases h
      exact .object ms
  · intro h
    cases h with
    | number literal => simp [fieldText?, render, chars]
    | _ => rfl

/-- What members hold under a name, in raw form; missing and null are alike. -/
inductive FieldText (ms : List (String × Json)) (name : String) : Option String → Prop
  | missing (h : ∀ m ∈ ms, m.1 ≠ name) : FieldText ms name none
  | null (h : LastWritten ms name .null) : FieldText ms name none
  | raw {v : Json} {s : String} (h : LastWritten ms name v) (hs : RawText v s) :
    FieldText ms name (some s)

theorem fieldText_get? (ms : List (String × Json)) (name : String) :
    FieldText ms name (((SortedMap.ofList ms).get? name).bind fieldText?) := by
  cases hget : (SortedMap.ofList ms).get? name with
  | none => exact .missing (SortedMap.get?_ofList_eq_none_iff.mp hget)
  | some v =>
    have hlast : LastWritten ms name v := SortedMap.get?_ofList_eq_some_iff.mp hget
    rw [Option.bind_some]
    cases htext : v.fieldText? with
    | none => exact .null (fieldText?_eq_none_iff.mp htext ▸ hlast)
    | some s => exact .raw hlast (fieldText?_eq_some_iff.mp htext)

theorem fieldText_iff {ms : List (String × Json)} {name : String} {text : Option String} :
    FieldText ms name text ↔ ((SortedMap.ofList ms).get? name).bind fieldText? = text := by
  constructor
  · intro h
    cases h with
    | missing h =>
      rw [SortedMap.get?_ofList_eq_none_iff.mpr h]
      rfl
    | null h =>
      rw [SortedMap.get?_ofList_eq_some_iff.mpr h]
      rfl
    | raw h hs =>
      rw [SortedMap.get?_ofList_eq_some_iff.mpr h]
      exact fieldText?_eq_some_iff.mpr hs
  · rintro rfl
    exact fieldText_get? ms name

theorem text?_eq_some_iff {v : Json} {s : String} : v.text? = some s ↔ v = .string s := by
  cases v <;> simp [text?]

end Json

theorem ResponseStatus.parse?_eq_some_iff {text : String} {status : ResponseStatus} :
    parse? text = some status ↔ Text.eqIgnoreCase text status.name = true := by
  have hexclusive : Text.eqIgnoreCase text "OK" = true → Text.eqIgnoreCase text "FAIL" = false := by
    intro h
    simp only [Text.eqIgnoreCase, beq_iff_eq] at h
    rw [Text.eqIgnoreCase, h]
    decide
  unfold parse?
  split
  · next hok => cases status <;> simp [name, hok, hexclusive hok]
  · next hok =>
    split
    · next hfail => cases status <;> simp [name, hok, hfail]
    · next hfail => cases status <;> simp [name, hok, hfail]

namespace Envelope

/-- The text of a body, blanks around it apart, is an object with these members, and the last of
them named `status` is the string that names the status, in whatever case. -/
def Declares (body : String) (status : ResponseStatus) (ms : List (String × Json)) : Prop :=
  ∃ text name, Text.Trimmed body text ∧
    Json.parse? (Utf8.encode text) = some (.object (SortedMap.ofList ms)) ∧
    Json.writtenMembers (Utf8.encode text) = ms ∧
    Json.LastWritten ms "status" (.string name) ∧ Text.eqIgnoreCase name status.name = true

theorem document?_eq_some_iff {body : String} {document : Json.Members} :
    document? body = some document ↔
      Json.parse? (Utf8.encode (Text.trim body)) = some (.object document) := by
  rw [document?, Option.bind_eq_some_iff]
  simp [Json.members?_eq_some_iff]

theorem statusOf_eq_some_iff {ms : List (String × Json)} {status : ResponseStatus} :
    statusOf (SortedMap.ofList ms) = some status ↔
      ∃ name, Json.LastWritten ms "status" (.string name) ∧
        Text.eqIgnoreCase name status.name = true := by
  simp only [statusOf, Option.bind_eq_some_iff, ResponseStatus.parse?_eq_some_iff,
    Json.text?_eq_some_iff, SortedMap.get?_ofList_eq_some_iff]
  constructor
  · rintro ⟨name, ⟨v, hlast, rfl⟩, hname⟩
    exact ⟨name, hlast, hname⟩
  · rintro ⟨name, hlast, hname⟩
    exact ⟨name, ⟨_, hlast, rfl⟩, hname⟩

theorem declares_iff {body : String} {status : ResponseStatus} {ms : List (String × Json)} :
    Declares body status ms ↔
      document? body = some (SortedMap.ofList ms) ∧
        Json.writtenMembers (Utf8.encode (Text.trim body)) = ms ∧
        statusOf (SortedMap.ofList ms) = some status := by
  rw [document?_eq_some_iff, statusOf_eq_some_iff]
  constructor
  · rintro ⟨text, name, htext, hparse, hms, hlast, hname⟩
    obtain rfl := Text.trim_eq_iff.mpr htext
    exact ⟨hparse, hms, name, hlast, hname⟩
  · rintro ⟨hparse, hms, name, hlast, hname⟩
    exact ⟨Text.trim body, name, Text.trim_eq_iff.mp rfl, hparse, hms, hlast, hname⟩

theorem Declares.unique {body : String} {status status' : ResponseStatus}
    {ms ms' : List (String × Json)} (h : Declares body status ms)
    (h' : Declares body status' ms') : ms = ms' :=
  (declares_iff.mp h).2.1.symm.trans (declares_iff.mp h').2.1

theorem exists_declares_iff {body : String} {status : ResponseStatus} :
    (∃ ms, Declares body status ms) ↔ (document? body).bind statusOf = some status := by
  constructor
  · rintro ⟨ms, hms⟩
    obtain ⟨hdocument, -, hstatus⟩ := declares_iff.mp hms
    rw [hdocument, Option.bind_some, hstatus]
  · intro h
    obtain ⟨document, hdocument, hstatus⟩ := Option.bind_eq_some_iff.mp h
    obtain ⟨_, _, _, -, -, -, hmembers⟩ :=
      Json.exists_members_of_parse? (document?_eq_some_iff.mp hdocument)
    rw [hmembers] at hdocument hstatus
    exact ⟨_, declares_iff.mpr ⟨hdocument, rfl, hstatus⟩⟩

section Replies

variable {r : Reply} {ms : List (String × Json)}

theorem ofReply_of_ok (h : Declares r.body .ok ms) :
    ofReply r = ⟨.success (SortedMap.ofList ms), r.status⟩ := by
  obtain ⟨hdocument, -, hstatus⟩ := declares_iff.mp h
  rw [ofReply, decode_of_document hdocument, ofDocument_of_ok hstatus]

theorem field?_ofReply_eq_iff (h : Declares r.body .ok ms) {name : String}
    {text : Option String} :
    (ofReply r).field? name = text ↔ Json.FieldText ms name text := by
  rw [ofReply_of_ok h, Json.fieldText_iff]
  rfl

theorem ofReply_of_fail (h : Declares r.body .fail ms) :
    ofReply r = ⟨.failure (detailOf (SortedMap.ofList ms)), r.status⟩ := by
  obtain ⟨hdocument, -, hstatus⟩ := declares_iff.mp h
  rw [ofReply, decode_of_document hdocument, ofDocument_of_fail hstatus]

theorem ofReply_of_undeclared (hok : ¬∃ ms, Declares r.body .ok ms)
    (hfail : ¬∃ ms, Declares r.body .fail ms) : ofReply r = httpFailure r.status := by
  rw [exists_declares_iff] at hok hfail
  cases hdocument : document? r.body with
  | none => rw [ofReply, decode, hdocument]
  | some document =>
    rw [hdocument, Option.bind_some] at hok hfail
    rw [ofReply, decode_of_document hdocument]
    rcases hstatus : statusOf document with - | - | -
    · exact ofDocument_of_none hstatus r.status
    · exact absurd hstatus hok
    · exact absurd hstatus hfail

end Replies

/-- The report on a body that declares nothing. -/
structure Unexplained (http : HttpStatus) (detail : ErrorDetail) : Prop where
  errorType : detail.errorType = 0
  stackTrace : detail.stackTrace = none
  httpStatus : detail.httpStatus = some http.code
  message : Text.EndTrimmed ("HTTP_FAILURE " ++ toString http.code ++ " " ++ http.phrase)
    detail.message

theorem unexplained_httpFailureDetail (http : HttpStatus) :
    Unexplained http (httpFailureDetail http) :=
  ⟨rfl, rfl, rfl, Text.trimEnd_eq_iff.mp rfl⟩

/-- The report of a body that declares a failure: what its own members say. -/
structure Reports (ms : List (String × Json)) (detail : ErrorDetail) : Prop where
  message : ∃ text, Json.FieldText ms "error_message" text ∧ detail.message = text.getD ""
  stackTrace : Json.FieldText ms "stack_trace" detail.stackTrace

theorem reports_detailOf (ms : List (String × Json)) :
    Reports ms (detailOf (SortedMap.ofList ms)) :=
  ⟨⟨_, Json.fieldText_get? ms _, rfl⟩, Json.fieldText_get? ms _⟩

/-- An envelope that carries nothing of a document. -/
structure Barren (e : Envelope) : Prop where
  document : e.document = none
  field : ∀ key, e.field? key = none
  integer : ∀ key, e.integer? key = none
  result : e.result = none
  outByIndex : e.outByIndex = []
  outByName : e.outByName = []

theorem barren_of_document {e : Envelope} (h : e.document = none) : Barren e := by
  have hobject : ∀ key, e.objectField key = [] := fun key => by simp [objectField, h]
  refine ⟨h, ?_, ?_, ?_, ?_, ?_⟩
  · exact fun key => by simp [field?, h]
  · exact fun key => by simp [integer?, h]
  · simp [result, field?, h]
  · rw [outByIndex, hobject]
    rfl
  · rw [outByName, hobject]
    rfl

/-- What becomes of a reply whose body declares a success. -/
structure Accepted (r : Reply) (ms : List (String × Json)) : Prop where
  document : (ofReply r).document = some (SortedMap.ofList ms)
  report : (ofReply r).detail? = none
  error : (ofReply r).error? = none
  result : r.document = .ok (ofReply r)
  failure : ∃ detail, Unexplained r.status detail ∧ failureOf r = .server detail r.status

/-- What becomes of a reply with any other body, by the report on it. -/
structure Refused (r : Reply) (detail : ErrorDetail) : Prop where
  barren : Barren (ofReply r)
  report : (ofReply r).detail? = some detail
  error : (ofReply r).error? = some (.server detail r.status)
  result : r.document = .error (.server detail r.status)
  failure : failureOf r = .server detail r.status

theorem accepted_of_success {r : Reply} {ms : List (String × Json)}
    (h : ofReply r = ⟨.success (SortedMap.ofList ms), r.status⟩) : Accepted r ms where
  document := by
    rw [h]
    rfl
  report := by
    rw [h]
    rfl
  error := by
    rw [h]
    rfl
  result := by
    rw [Reply.document, h]
    rfl
  failure := by
    refine ⟨httpFailureDetail r.status, unexplained_httpFailureDetail r.status, ?_⟩
    rw [failureOf, h]
    rfl

theorem refused_of_failure {r : Reply} {detail : ErrorDetail}
    (h : ofReply r = ⟨.failure detail, r.status⟩) : Refused r detail where
  barren := by
    rw [h]
    exact barren_of_document rfl
  report := by
    rw [h]
    rfl
  error := by
    rw [h]
    rfl
  result := by
    rw [Reply.document, h]
    rfl
  failure := by
    rw [failureOf, h]
    rfl

theorem isOk_ofReply_iff (r : Reply) :
    (ofReply r).isOk = true ↔ ∃ ms, Declares r.body .ok ms := by
  rw [exists_declares_iff]
  cases hdocument : document? r.body with
  | none => simp [ofReply, decode, hdocument, httpFailure, isOk]
  | some document =>
    rw [ofReply, decode_of_document hdocument, Option.bind_some]
    exact isOk_ofDocument_iff

/-- A reply is a success exactly if its body declares one, and carries then the whole document and
no error. Every other reply carries nothing but an error, which is the body's own report if the
body declares a failure, and else what the HTTP status says. -/
theorem definite_verdict (r : Reply) :
    ((ofReply r).isOk = true ↔ ∃ ms, Declares r.body .ok ms) ∧
      (∀ ms, Declares r.body .ok ms → Accepted r ms) ∧
      ((¬∃ ms, Declares r.body .ok ms) → ∃ detail, Refused r detail ∧
        (∀ ms, Declares r.body .fail ms → Reports ms detail) ∧
        ((¬∃ ms, Declares r.body .fail ms) → Unexplained r.status detail)) := by
  refine ⟨isOk_ofReply_iff r, fun ms hms => accepted_of_success (ofReply_of_ok hms),
    fun hok => ?_⟩
  by_cases hfail : ∃ ms, Declares r.body .fail ms
  · obtain ⟨ms, hms⟩ := hfail
    refine ⟨_, refused_of_failure (ofReply_of_fail hms), fun ms' hms' => ?_, ?_⟩
    · rw [hms'.unique hms]
      exact reports_detailOf ms
    · exact fun hnot => absurd ⟨ms, hms⟩ hnot
  · refine ⟨_, refused_of_failure (ofReply_of_undeclared hok hfail), ?_, ?_⟩
    · exact fun ms hms => absurd ⟨ms, hms⟩ hfail
    · exact fun _ => unexplained_httpFailureDetail r.status

/-- A success with the HTTP status of a failure, a failure whose message is an array, and a body
that is no JSON at all. Of the two statuses in a body the last counts. -/
theorem definite_verdict_repeated :
    (∃ r ms, r = ⟨" \x7b\"status\":\"FAIL\",\"status\":\"ok\"\x7d\n", ⟨503, ""⟩⟩ ∧
      Declares r.body .ok ms ∧ Accepted r ms) ∧
    (∃ r ms detail,
      r = ⟨"\x7b\"status\":\"OK\",\"error_message\":[ 1],\"status\":\"Fail\"\x7d", ⟨200, ""⟩⟩ ∧
      Declares r.body .fail ms ∧ Refused r detail ∧ Reports ms detail) ∧
    ∃ r detail, r = ⟨"<html>", ⟨502, " "⟩⟩ ∧ Refused r detail ∧ Unexplained r.status detail := by
  refine ⟨?_, ?_, ?_⟩
  · obtain ⟨r, hr, hok⟩ : ∃ r : Reply,
        r = ⟨" \x7b\"status\":\"FAIL\",\"status\":\"ok\"\x7d\n", ⟨503, ""⟩⟩ ∧
          (document? r.body).bind statusOf = some .ok := ⟨_, rfl, by decide +kernel⟩
    obtain ⟨ms, hms⟩ := exists_declares_iff.mpr hok
    exact ⟨r, ms, hr, hms, (definite_verdict r).2.1 ms hms⟩
  · obtain ⟨r, hr, hfail⟩ : ∃ r : Reply,
        r = ⟨"\x7b\"status\":\"OK\",\"error_message\":[ 1],\"status\":\"Fail\"\x7d", ⟨200, ""⟩⟩ ∧
          (document? r.body).bind statusOf = some .fail := ⟨_, rfl, by decide +kernel⟩
    obtain ⟨ms, hms⟩ := exists_declares_iff.mpr hfail
    obtain ⟨detail, hrefused, hreports, -⟩ :=
      (definite_verdict r).2.2 (exists_declares_iff.not.mpr (by simp [hfail]))
    exact ⟨r, ms, detail, hr, hms, hrefused, hreports ms hms⟩
  · obtain ⟨r, hr, hnone⟩ : ∃ r : Reply, r = ⟨"<html>", ⟨502, " "⟩⟩ ∧
        (document? r.body).bind statusOf = none := ⟨_, rfl, by decide +kernel⟩
    obtain ⟨detail, hrefused, -, hunexplained⟩ :=
      (definite_verdict r).2.2 (exists_declares_iff.not.mpr (by simp [hnone]))
    exact ⟨r, detail, hr, hrefused, hunexplained (exists_declares_iff.not.mpr (by simp [hnone]))⟩

end Envelope

end RemoteSql
