import Mathlib
import RemoteSql.Proofs.Decimal.Whole
import RemoteSql.Proofs.Envelope.Verdict
import RemoteSql.Proofs.Session.Login

/-!
# Error codes of a failure

A failure may give its code as a number or as text, of as many as 64 bits. An error has room for 32
of them, and what is kept is the residue: a code that fits is kept as it is, and one that does not
becomes another code, which is none only for the multiples of 2 ^ 32.
-/

namespace RemoteSql

namespace Json

/-- A value that writes a whole number without point and exponent, as a number or in a text, which
may have blanks around it. -/
inductive Gives : Json → Int → Prop
  | number {literal : String} {n : Int} (h : Decimal.Denotes literal.toList n) :
    Gives (.number literal) n
  | string {text : String} {n : Int} (h : Decimal.Writes text n) : Gives (.string text) n

theorem integer?_eq_some_iff {v : Json} {n : Int} :
    v.integer? = some n ↔ Gives v n ∧ Decimal.FitsSigned 64 n := by
  constructor
  · intro h
    cases v with
    | number literal =>
      obtain ⟨hread, hfits⟩ := Decimal.readSigned?_eq_some_iff.mp h
      exact ⟨.number (Decimal.signed?_eq_some_iff.mp hread), hfits⟩
    | string text =>
      obtain ⟨hwrites, hfits⟩ := Decimal.readSigned?_trim_eq_some_iff.mp h
      exact ⟨.string hwrites, hfits⟩
    | _ => cases h
  · rintro ⟨hgives, hfits⟩
    cases hgives with
    | number h =>
      exact Decimal.readSigned?_eq_some_iff.mpr ⟨Decimal.signed?_eq_some_iff.mpr h, hfits⟩
    | string h => exact Decimal.readSigned?_trim_eq_some_iff.mpr ⟨h, hfits⟩

end Json

theorem Decimal.FitsSigned.toInt_ofInt {n : Int} (h : FitsSigned 32 n) :
    (Int32.ofInt n).toInt = n := by
  obtain ⟨hlow, hhigh⟩ := h
  norm_num at hlow hhigh
  exact Int32.toInt_ofInt_of_le hlow hhigh

namespace Envelope

/-- The code that a number calls for in an error: itself, or none when there is no room for it. -/
def codeFor (n : Int) : Int := if Decimal.FitsSigned 32 n then n else 0

theorem toInt_ofInt_eq_zero_iff {n : Int} : (Int32.ofInt n).toInt = 0 ↔ 2 ^ 32 ∣ n := by
  rw [Int32.toInt_ofInt]
  exact Int.dvd_iff_bmod_eq_zero.symm

/-- What is kept of a number is the code that it calls for, unless there is no room for it and its
last 32 bits are not all zero. -/
theorem toInt_ofInt_eq_codeFor_iff {n : Int} :
    (Int32.ofInt n).toInt = codeFor n ↔ Decimal.FitsSigned 32 n ∨ 2 ^ 32 ∣ n := by
  unfold codeFor
  split
  · next h => simp [h, h.toInt_ofInt]
  · next h => exact toInt_ofInt_eq_zero_iff.trans (or_iff_right h).symm

/-- What becomes of a reply that fails with a report, at a login and everywhere else. -/
structure Fails (r : Reply) (detail : ErrorDetail) : Prop extends Refused r detail where
  errorType : (ofReply r).errorType = detail.errorType
  resumption : ∀ {u d n id request w}, Manager.resumeRequest u id = .ok request →
    Wire.replyOf w.upcoming.answer = .ok r →
      ((Manager.resume u d n id).run w).1 = .error (.server detail r.status)
  login : ∀ {u d n pw request w}, Manager.passwordRequest u d n pw = .ok request →
    Wire.replyOf w.upcoming.answer = .ok r →
      ((Manager.passwordLogin u d n pw).run w).1 = .error (.authentication detail r.status.code)

theorem fails_of_failure {r : Reply} {detail : ErrorDetail}
    (h : ofReply r = ⟨.failure detail, r.status⟩) : Fails r detail where
  toRefused := refused_of_failure h
  errorType := by
    rw [h]
    rfl
  resumption hrequest hreply := by
    rw [Manager.run_resume_reply hrequest hreply, Manager.resumed, (refused_of_failure h).result]
    rfl
  login hrequest hreply := by
    rw [Manager.run_passwordLogin_ok hrequest, hreply]
    simp [Except.bind, Manager.sessionOf, h]

/-- The document gives this number as its error code. -/
def Announces (document : Json.Members) (n : Int) : Prop :=
  ∃ v, document.get? "error_type" = some v ∧ v.Gives n ∧ Decimal.FitsSigned 64 n

theorem announces_iff {document : Json.Members} {n : Int} :
    Announces document n ↔ (document.get? "error_type").bind Json.integer? = some n := by
  simp only [Announces, Option.bind_eq_some_iff, Json.integer?_eq_some_iff]

theorem errorType_detailOf {document : Json.Members} {n : Int} (h : Announces document n) :
    (detailOf document).errorType = Int32.ofInt n := by
  rw [detailOf, announces_iff.mp h, Option.getD_some]

theorem errorType_detailOf_eq_zero {document : Json.Members} (h : ∀ n, ¬Announces document n) :
    (detailOf document).errorType = 0 := by
  have hnone : (document.get? "error_type").bind Json.integer? = none :=
    Option.eq_none_iff_forall_ne_some.mpr fun n hn => h n (announces_iff.mpr hn)
  rw [detailOf, hnone, Option.getD_none]
  rfl

/-- The code of a failure is the residue of the number that its document gives, in the envelope and
in every error that is made of it. Without such a number there is no code. -/
theorem errorType_residue {document : Json.Members} (hfail : statusOf document = some .fail) :
    ∃ detail : ErrorDetail,
      (∀ n, Announces document n → detail.errorType.toInt = n.bmod (2 ^ 32) ∧
        (detail.errorType.toInt = codeFor n ↔ Decimal.FitsSigned 32 n ∨ 2 ^ 32 ∣ n)) ∧
      ((∀ n, ¬Announces document n) → detail.errorType = 0) ∧
      (∀ http, (ofDocument document http).errorType = detail.errorType ∧
        (ofDocument document http).error? = some (.server detail http)) ∧
      ∀ r : Reply, document? r.body = some document → Fails r detail := by
  refine ⟨detailOf document, fun n hn => ?_, errorType_detailOf_eq_zero, fun http => ?_,
    fun r hr => fails_of_failure ?_⟩
  · rw [errorType_detailOf hn, toInt_ofInt_eq_codeFor_iff, Int32.toInt_ofInt]
    exact ⟨rfl, Iff.rfl⟩
  · rw [ofDocument_of_fail hfail]
    exact ⟨rfl, rfl⟩
  · rw [ofReply, decode_of_document hr, ofDocument_of_fail hfail]

/-- The least code that there is room for is what becomes of a number just beyond the greatest. -/
theorem errorType_residue_least :
    ∃ (document : Json.Members) (detail : ErrorDetail),
      document = [("error_type", .string " 2147483648 "), ("status", .string "fail")] ∧
      Announces document 2147483648 ∧ detail.errorType.toInt = -2147483648 ∧
      detail.errorType.toInt ≠ codeFor 2147483648 ∧
      ∀ r : Reply, document? r.body = some document → Fails r detail := by
  obtain ⟨document, hdocument, hfail, hcode⟩ : ∃ document : Json.Members,
      document = [("error_type", .string " 2147483648 "), ("status", .string "fail")] ∧
      statusOf document = some .fail ∧
      (document.get? "error_type").bind Json.integer? = some 2147483648 :=
    ⟨_, rfl, by decide +kernel, by decide +kernel⟩
  have hannounces : Announces document 2147483648 := announces_iff.mpr hcode
  obtain ⟨detail, hgiven, -, -, hfails⟩ := errorType_residue hfail
  obtain ⟨hresidue, hiff⟩ := hgiven _ hannounces
  exact ⟨document, detail, hdocument, hannounces, hresidue,
    fun h => absurd (hiff.mp h) (by decide), hfails⟩

/-- A number of which only the last 32 bits are kept becomes a code that has a meaning. -/
theorem errorType_overflow :
    ∃ (r : Reply) (document : Json.Members) (detail : ErrorDetail),
      r = ⟨"\x7b\"status\":\"FAIL\",\"error_type\":4294967300\x7d", ⟨500, ""⟩⟩ ∧
      document? r.body = some document ∧ statusOf document = some .fail ∧
      Announces document 4294967300 ∧ codeFor 4294967300 = 0 ∧
      detail.errorType = 4 ∧ Fails r detail := by
  obtain ⟨r, hr, hfail, hcode⟩ : ∃ r : Reply,
      r = ⟨"\x7b\"status\":\"FAIL\",\"error_type\":4294967300\x7d", ⟨500, ""⟩⟩ ∧
      (document? r.body).map statusOf = some (some .fail) ∧
      (document? r.body).map (fun document => (document.get? "error_type").bind Json.integer?) =
        some (some 4294967300) := ⟨_, rfl, by decide +kernel, by decide +kernel⟩
  obtain ⟨document, hdocument, hfail⟩ := Option.map_eq_some_iff.mp hfail
  rw [hdocument, Option.map_some, Option.some.injEq] at hcode
  have hannounces : Announces document 4294967300 := announces_iff.mpr hcode
  refine ⟨r, document, detailOf document, hr, hdocument, hfail, hannounces, by decide, ?_,
    fails_of_failure ?_⟩
  · rw [errorType_detailOf hannounces]
    decide
  · rw [ofReply, decode_of_document hdocument, ofDocument_of_fail hfail]

end Envelope

end RemoteSql
