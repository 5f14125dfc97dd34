import Mathlib
import RemoteSql.Proofs.Connection.Blame
import RemoteSql.Proofs.Session.History

/-!
# What the errors of a call say

Any call of a manager or of a connection makes two requests at most. An error that blames the caller
comes without a request, one that blames the server carries the status of the last answer, and a
transport that fails last is reported as it failed, unless an upload was withdrawn meanwhile. A call
that has to judge an answer does not succeed with one that it should have refused.
-/

namespace RemoteSql

namespace Session

variable {s : Session} {blobId : String}

/-- A blob whose length was answered has an id, and a session whose server can be reached. -/
theorem exists_url_of_blobLength {w w' : Wire} {length : UInt64}
    (h : (s.blobLength blobId).run w = (.ok length, w')) :
    requireBlobId blobId = .ok () ∧ ∃ url, s.actionUrl "get_blob_length" none = .ok url := by
  unfold blobLength at h
  cases hid : requireBlobId blobId with
  | error e =>
    rw [hid] at h
    cases h
  | ok _ =>
    refine ⟨rfl, ?_⟩
    cases hurl : s.actionUrl "get_blob_length" none with
    | error e =>
      rw [hid, postAction_eq_exchange, hurl] at h
      cases h
    | ok url => exact ⟨url, rfl⟩

theorem run_download_ok {url : String} (hid : requireBlobId blobId = .ok ())
    (hurl : s.actionUrl "blob_download" none = .ok url) (w : Wire) :
    (s.download blobId).run w = ((Wire.responseOf w.upcoming.answer).bind admitted,
      w.after (.post url [("blob_id", blobId)])) := by
  unfold download
  rw [hid, fetch_eq_exchange, hurl]
  rfl

/-- Once the length is known, a blob is copied as a download is. -/
theorem downloadTo_of_length {copy : Copy} {p : Progress} {length : UInt64} {w w₁ : Wire}
    (hprogress : copy.progress = some p)
    (hlength : (s.blobLength blobId).run w = (.ok length, w₁)) :
    s.downloadTo blobId copy w = match (s.download blobId).run w₁ with
      | (.error e, w₂) => (.error e, { copy with progress := some (p.begin length) }, w₂)
      | (.ok source, w₂) =>
        let (r, copy) := ({ copy with progress := some (p.begin length) } : Copy).fill source 0
        (r, copy, w₂) := by
  unfold downloadTo
  rw [hprogress]
  dsimp only
  rw [hlength]
  dsimp only [Except.map]
  obtain ⟨e | source, w₂⟩ := (s.download blobId).run w₁
  · rfl
  · rfl

theorem downloadTo_of_error {copy : Copy} {p : Progress} {e : Error} {w w₁ : Wire}
    (hprogress : copy.progress = some p)
    (hlength : (s.blobLength blobId).run w = (.error e, w₁)) :
    s.downloadTo blobId copy w = (.error e, copy, w₁) := by
  unfold downloadTo
  rw [hprogress]
  dsimp only
  rw [hlength]
  rfl

theorem cancelled_settleUpload (answer : Except Error Reply) (progress : Option Progress) :
    (settleUpload answer progress).2.any (·.cancelled) = progress.any (·.cancelled) := by
  unfold settleUpload
  split
  · cases progress <;> rfl
  · rfl

/-- A withdrawn upload reports just that, unless the server has confirmed it. -/
theorem settled_upload (reader : UploadReader) (x : Exchange) (progress : Option Progress) :
    Settled (.upload reader) (progress.any (·.cancelled)) x
      (settleUpload (reader.answerOf x) progress).1 := by
  have hincidental := incidental_answerOf reader x
  unfold settleUpload
  split
  · next envelope hdocument =>
    obtain ⟨reply, hreply, henvelope⟩ := exists_of_bind_eq_ok hdocument
    constructor
    · exact .ok ()
    · exact .ok ()
    · intro e he
      obtain he : reader.answerOf x = .error e := eq_error_of_map_eq_error he
      rw [he] at hreply
      cases hreply
    · intro _ _
      exact ⟨reply, replyOf_of_answerOf hreply, judges_document.success reply envelope henvelope⟩
  · next e hdocument =>
    constructor
    · refine .error ?_
      split
      · exact Error.incidental_cancelled.1
      · exact (hincidental.imp fun _ h => h.1).bind judges_document.configuration e hdocument
    · refine .error ?_
      split
      · exact fun hserver => absurd hserver Error.incidental_cancelled.2
      · intro hserver
        rcases eq_error_or_of_bind_eq_error hdocument with h | ⟨reply, hreply, he⟩
        · exact absurd hserver (hincidental e h).2
        · obtain ⟨response, hresponse, hstatus⟩ := answer_of_replyOf (replyOf_of_answerOf hreply)
          refine ⟨response, hresponse, ?_⟩
          rw [← hstatus]
          exact judges_document.server reply e he hserver
    · intro e' he'
      obtain he' : reader.answerOf x = .error e' := eq_error_of_map_eq_error he'
      rw [he'] at hdocument
      cases hdocument
      rfl
    · intro _ ha
      cases ha

end Session

/-- A call of a manager or of a connection, in whatever state that is. -/
inductive Api
  | manager (k : Manager.Call)
  | operate (c : Connection) (o : Connection.Operation)
  | duplicate (c : Connection)
  | close (c : Connection)
  | logout (c : Connection)

namespace Api

def work : Api → ManagerM Unit
  | manager k => discard k.work
  | operate c o => Manager.onWire (o.work c)
  | duplicate c => discard (Manager.onWire c.duplicate)
  | close c => Manager.onWire c.close.2
  | logout c => c.logout.2

/-- How a call takes the answer to its last request, if it succeeds. -/
def last : Api → Intake
  | operate _ o => o.intake
  | manager _ | duplicate _ | close _ | logout _ => .document

/-- How a call takes the answer to the request that comes after `n` others: a download with progress
asks for the length first. -/
def intake (a : Api) (n : Nat) : Intake :=
  match a, n with
  | operate _ (.downloadTo _ copy), 0 => if copy.progress.isSome then .document else .download
  | a, _ => a.last

/-- Whether an upload has been withdrawn by the time that it is over. -/
def withdrawn (a : Api) (w : Wire) : Bool :=
  match a with
  | operate c (.upload blobId length reader) =>
    (c.upload blobId length reader w).progress.any (·.cancelled)
  | _ => false

/-- Whether a call may have nothing to do: ending what has ended. -/
def MayRest : Api → Prop
  | manager (.logout _) | close _ | logout _ => True
  | _ => False

end Api

/-- All that a call can come to. -/
inductive Course (a : Api) (w : Wire) : Except Error Unit → Wire → Prop
  | rest (h : a.MayRest) : Course a w (.ok ()) w
  | unsent {e : Error} (h : e.Unserved) : Course a w (.error e) w
  | once {r : Except Error Unit} (request : Request)
    (h : Settled (a.intake 0) (a.withdrawn w) (w.nth 0) r)
    (hlast : r = .ok () → a.last = a.intake 0) : Course a w r (w.after request)
  | twice {r : Except Error Unit} (request₁ request₂ : Request)
    (h : Settled (a.intake 1) (a.withdrawn w) (w.nth 1) r) (hlast : a.last = a.intake 1) :
    Course a w r ((w.after request₁).after request₂)

theorem Course.of_single {a : Api} {w w' : Wire} {r : Except Error Unit}
    (h : Single (a.intake 0) w r w') (hwithdrawn : a.withdrawn w = false)
    (hlast : r = .ok () → a.last = a.intake 0) : Course a w r w' := by
  cases h with
  | unsent h => exact .unsent h
  | sent request h =>
    refine .once request ?_ hlast
    rw [hwithdrawn, Wire.nth_zero]
    exact h

section Manager

variable {u d n id : String} {m m₁ : Manager} {w : Wire}

/-- A login that is refused its cached session asks a second time. -/
theorem exists_passwordRequest (h : Manager.Refused u d n m id w) (pw : String) :
    ∃ request₁ request₂, w = m.wire.after request₁ ∧
      Manager.passwordRequest u d n pw = .ok request₂ := by
  obtain ⟨url, reply, hurl, hw, -, -⟩ := h.exists_reply
  obtain ⟨url', hurl'⟩ := exists_serverPath hurl ["database", d, "username", n, "login"]
  refine ⟨.get url, .post url' (Manager.loginForm pw), hw, ?_⟩
  unfold Manager.passwordRequest
  rw [hurl']
  rfl

theorem course_of_asking (pw : String) {a : Api} (ha : ∀ n, a.intake n = .document)
    (hlast : a.last = .document) (hwithdrawn : a.withdrawn m.wire = false)
    (h : Manager.Asking u d n m m₁) :
    Course a m.wire (((Manager.passwordLogin u d n pw).run m₁.wire).1.map fun _ => ())
      ((Manager.passwordLogin u d n pw).run m₁.wire).2 := by
  cases h with
  | uncached hfind =>
    apply Course.of_single _ hwithdrawn
    · intro _
      rw [ha, hlast]
    · rw [ha]
      exact (Manager.makesOne_passwordLogin u d n pw m.wire).map _
  | refused h =>
    obtain ⟨request₁, request₂, rfl, hrequest⟩ := exists_passwordRequest h pw
    rw [Manager.run_passwordLogin_ok hrequest]
    refine .twice request₁ request₂ ?_ (by rw [ha, hlast])
    rw [ha, hwithdrawn, Wire.nth_succ _ request₁, Wire.nth_zero]
    exact (settled_document (Manager.judges_sessionOf u d n) _).map _

theorem course_login (u d n pw : String) (m : Manager) :
    Course (.manager (.login u d n pw)) m.wire
      (((Manager.login u d n pw).run m).1.map fun _ => ())
      ((Manager.login u d n pw).run m).2.wire := by
  have hcases := Manager.login_cases u d n pw m
  generalize (Manager.login u d n pw).run m = out at hcases ⊢
  cases hcases with
  | incomplete h =>
    have hrequire : FailsOnly Error.Unserved (Manager.requireLogin u d n) :=
      (unserved_require _ _).bind fun _ => (unserved_require _ _).bind fun _ =>
        unserved_require _ _
    exact .unsent (hrequire _ h)
  | @resumed id _ _ hfind hresume | @stuck id _ _ hfind hresume hserver =>
    have hsingle := Manager.makesOne_resume u d n id m.wire
    rw [hresume] at hsingle
    exact .of_single (hsingle.map fun _ => ()) rfl fun _ => rfl
  | failed hasking hlogin | fresh hasking hlogin =>
    have hcourse := course_of_asking pw (a := .manager (.login u d n pw)) (fun _ => rfl) rfl rfl
      hasking
    rw [hlogin] at hcourse
    exact hcourse

/-- Ending a session, on whatever call's behalf. -/
theorem course_of_logout {a : Api} (ha : a.intake 0 = .document) (hlast : a.last = .document)
    (hwithdrawn : a.withdrawn m.wire = false) (hrest : a.MayRest) (s : Session) :
    Course a m.wire ((Manager.logout s).run m).1 ((Manager.logout s).run m).2.wire := by
  by_cases hmark : s.mark ∈ m.ended
  · rw [Manager.run_logout_of_mem hmark]
    exact .rest hrest
  · rw [Manager.run_logout_of_not_mem hmark]
    apply Course.of_single _ hwithdrawn
    · intro _
      rw [ha, hlast]
    · rw [ha]
      exact (s.makesOne_getAction "logout" none m.wire).map fun _ => ()

end Manager

namespace Connection

variable (c : Connection)

theorem course_close (w : Wire) : Course (.close c) w (c.close.2.run w).1 (c.close.2.run w).2 := by
  by_cases hclosed : c.isClosed = true
  · have hclose : c.close = (c, pure ()) := if_pos hclosed
    rw [hclose]
    exact .rest trivial
  · have hclose : c.close = ({ c with state := .closed },
        do let _ ← c.session.getAction "close" none) := if_neg hclosed
    have hone : MakesOne .document (do let _ ← c.session.getAction "close" none : WireM Unit) :=
      (c.session.makesOne_getAction "close" none).bind fun _ => quiet_pure _
    rw [hclose]
    exact .of_single (hone w) rfl fun _ => rfl

theorem course_logout (m : Manager) :
    Course (.logout c) m.wire (c.logout.2.run m).1 (c.logout.2.run m).2.wire := by
  by_cases hout : c.state = .loggedOut
  · have hlogout : c.logout = (c, pure ()) := if_pos hout
    rw [hlogout]
    exact .rest trivial
  · have hlogout : c.logout = ({ c with state := .loggedOut }, Manager.logout c.session) :=
      if_neg hout
    rw [hlogout]
    exact course_of_logout (a := .logout c) rfl rfl rfl trivial c.session

theorem course_upload (blobId : String) (length : UInt64) (reader : UploadReader) (w : Wire) :
    Course (.operate c (.upload blobId length reader)) w (c.upload blobId length reader w).result
      (c.upload blobId length reader w).wire := by
  have hwithdrawn : (Api.operate c (.upload blobId length reader)).withdrawn w =
      (c.upload blobId length reader w).progress.any (·.cancelled) := rfl
  unfold upload Session.upload at hwithdrawn ⊢
  cases hopen : c.ensureOpen with
  | error e => exact .unsent (c.incidental_ensureOpen e hopen).unserved
  | ok _ =>
    rw [hopen] at hwithdrawn
    dsimp only at hwithdrawn ⊢
    split
    · exact .unsent (Error.unserved_required _)
    · next hid =>
      rw [if_neg hid] at hwithdrawn
      split
      · exact .unsent Error.incidental_cancelled.unserved
      · next hcancelled =>
        rw [if_neg hcancelled] at hwithdrawn
        cases hurl : c.session.actionUrl "blob_upload" none with
        | error e => exact .unsent (c.session.unserved_actionUrl _ _ e hurl)
        | ok url =>
          rw [hurl] at hwithdrawn
          dsimp only at hwithdrawn ⊢
          refine .once _ ?_ fun _ => rfl
          rw [hwithdrawn, Wire.nth_zero]
          rw [Session.cancelled_settleUpload]
          exact Session.settled_upload _ _ _

/-- With progress, the length of a blob is asked for before its content. -/
theorem course_downloadTo (blobId : String) {copy : Copy} {p : Progress}
    (hprogress : copy.progress = some p) (w : Wire) :
    Course (.operate c (.downloadTo blobId copy)) w
      ((c.downloadTo blobId copy w).1.map fun _ => ()) (c.downloadTo blobId copy w).2.2 := by
  have hintake : (Api.operate c (.downloadTo blobId copy)).intake 0 = .document := by
    simp [Api.intake, hprogress]
  unfold downloadTo
  cases hopen : c.ensureOpen with
  | error e => exact .unsent (c.incidental_ensureOpen e hopen).unserved
  | ok _ =>
    have hlength := c.session.makesOne_blobLength blobId w
    dsimp only
    cases hrun : (c.session.blobLength blobId).run w with
    | mk r w₁ =>
      rw [hrun] at hlength
      cases r with
      | error e =>
        rw [Session.downloadTo_of_error hprogress hrun]
        refine .of_single ?_ rfl fun hok => by cases hok
        rw [hintake]
        exact hlength.map fun _ => ()
      | ok length =>
        -- the first request has been made, and the second one can be
        obtain ⟨request₁, rfl⟩ := hlength.exists_request
        obtain ⟨hid, url, hurl⟩ := Session.exists_url_of_blobLength hrun
        obtain ⟨url, hurl⟩ := exists_serverPath hurl (c.session.segments "blob_download" none)
        have hdownload := Session.run_download_ok hid hurl (w.after request₁)
        have hsettled := settled_response Session.admits_admitted (w.nth 1)
        rw [Session.downloadTo_of_length hprogress hrun, hdownload]
        rw [Wire.nth_succ w request₁, Wire.nth_zero] at hsettled
        generalize (Wire.responseOf (w.after request₁).upcoming.answer).bind Session.admitted = r
          at hsettled ⊢
        have hcourse : ∀ {r' : Except Error Unit},
            Settled .download false (w.after request₁).upcoming r' →
            Course (.operate c (.downloadTo blobId copy)) w r'
              ((w.after request₁).after (.post url [("blob_id", blobId)])) := by
          intro r' h
          refine .twice request₁ _ ?_ rfl
          rw [Wire.nth_succ w request₁, Wire.nth_zero]
          exact h
        cases r with
        | error e => exact hcourse (hsettled.map fun _ => ())
        | ok source =>
          exact hcourse (hsettled.bind fun source =>
            (Copy.incidental_fill _ source 0).map fun _ => ())

theorem course_work (o : Operation) (w : Wire) :
    Course (.operate c o) w ((o.work c).run w).1 ((o.work c).run w).2 := by
  by_cases hplain : o.IsPlain
  · have hintake : (Api.operate c o).intake 0 = o.intake := by
      cases o with
      | downloadTo blobId copy =>
        have hprogress : copy.progress = none := hplain
        simp [Api.intake, hprogress, Operation.intake]
      | _ => rfl
    have hwithdrawn : (Api.operate c o).withdrawn w = false := by
      cases o with
      | upload blobId length reader => exact hplain.elim
      | _ => rfl
    refine .of_single ?_ hwithdrawn fun _ => ?_
    · rw [hintake]
      exact c.makesOne_work hplain w
    · rw [hintake]
      rfl
  · cases o with
    | downloadTo blobId copy =>
      obtain ⟨p, hprogress⟩ := Option.ne_none_iff_exists'.mp hplain
      exact c.course_downloadTo blobId hprogress w
    | upload blobId length reader => exact c.course_upload blobId length reader w
    | _ => exact absurd trivial hplain

end Connection

theorem course_manager (k : Manager.Call) (m : Manager) :
    Course (.manager k) m.wire ((k.work.run m).1.map fun _ => ()) (k.work.run m).2.wire := by
  cases k with
  | login u d n pw =>
    have h := course_login u d n pw m
    rw [Manager.Call.work, run_map]
    generalize (Manager.login u d n pw).run m = out at h
    obtain ⟨e | s, m'⟩ := out
    · exact h
    · exact h
  | resume u d n id =>
    have h := (Manager.makesOne_resume u d n id m.wire).map some
    rw [Manager.Call.work, run_map, Manager.run_onWire]
    exact .of_single (h.map fun _ => ()) rfl fun _ => rfl
  | logout s =>
    have h := course_of_logout (a := .manager (.logout s)) (m := m) rfl rfl rfl trivial s
    rw [Manager.Call.work, run_bind]
    generalize (Manager.logout s).run m = out at h
    obtain ⟨e | _, m'⟩ := out
    · exact h
    · exact h

theorem course_of_work (a : Api) (m : Manager) :
    Course a m.wire (a.work.run m).1 (a.work.run m).2.wire := by
  cases a with
  | manager k =>
    rw [Api.work, Connection.run_discard]
    exact course_manager k m
  | operate c o => exact c.course_work o m.wire
  | duplicate c =>
    rw [Api.work, Connection.run_discard]
    exact .of_single ((c.makesOne_duplicate m.wire).map fun _ => ()) rfl fun _ => rfl
  | close c => exact c.course_close m.wire
  | logout c => exact c.course_logout m

/-- What can be told from the outcome of a call, the wire before it and the wire after it. -/
structure Classified (a : Api) (w : Wire) (r : Except Error Unit) (w' : Wire) : Prop where
  /-- The requests were made one after the other and nothing else was done to the wire. -/
  wire_eq : w' = { w with
    exchanges := w.exchanges.drop (w.since w').length
    sent := w.sent ++ w.since w' }
  configuration : ∀ e, r = .error e → e.kind = .configuration → w.since w' = []
  server : ∀ e, r = .error e → e.kind = .server → ∃ n response, (w.since w').length = n + 1 ∧
    (w.nth n).answer = .ok response ∧ e.httpCode = some response.status.code
  transport : ∀ n e, (w.since w').length = n + 1 →
    (a.intake n).transported (w.nth n) = .error e →
      r = .error (if a.withdrawn w then .cancelled else e)
  success : r = .ok () → a.MayRest ∧ w.since w' = [] ∨
    ∃ n, (w.since w').length = n + 1 ∧ a.last.Accepts (w.nth n)

theorem Course.classified {a : Api} {w w' : Wire} {r : Except Error Unit} (h : Course a w r w') :
    Classified a w r w' := by
  cases h with
  | rest h =>
    have hsince := w.since_self
    constructor
    · simp [hsince]
    · intro e he
      cases he
    · intro e he
      cases he
    · intro n e hn
      simp [hsince] at hn
    · intro _
      exact Or.inl ⟨h, hsince⟩
  | unsent h =>
    have hsince := w.since_self
    constructor
    · simp [hsince]
    · intro _ _ _
      exact hsince
    · intro e he hserver
      cases he
      exact absurd hserver h
    · intro n e hn
      simp [hsince] at hn
    · intro hok
      cases hok
  | once request h hlast =>
    have hsince : w.since (w.after request) = [request] := Wire.since_of_sent rfl
    constructor
    · rw [hsince]
      simp [Wire.after]
    · intro e he hkind
      exact absurd hkind (h.configuration e he)
    · intro e he hserver
      obtain ⟨response, hresponse, hcode⟩ := h.server e he hserver
      exact ⟨0, response, by simp [hsince], hresponse, hcode⟩
    · intro n e hn he
      obtain rfl : n = 0 := by simpa [hsince] using hn
      exact h.transport e he
    · intro hok
      refine Or.inr ⟨0, by simp [hsince], ?_⟩
      rw [hlast hok]
      exact h.success () hok
  | twice request₁ request₂ h hlast =>
    have hsince : w.since ((w.after request₁).after request₂) = [request₁, request₂] :=
      Wire.since_of_sent (by simp [Wire.after])
    constructor
    · have htail : w.exchanges.tail.tail = w.exchanges.drop 2 := by
        rw [← List.drop_one, ← List.drop_one, List.drop_drop]
      rw [hsince]
      simp [Wire.after, htail]
    · intro e he hkind
      exact absurd hkind (h.configuration e he)
    · intro e he hserver
      obtain ⟨response, hresponse, hcode⟩ := h.server e he hserver
      exact ⟨1, response, by simp [hsince], hresponse, hcode⟩
    · intro n e hn he
      obtain rfl : n = 1 := by simpa [hsince] using hn.symm
      exact h.transport e he
    · intro hok
      refine Or.inr ⟨1, by simp [hsince], ?_⟩
      rw [hlast]
      exact h.success () hok

/-- Whatever is called, on whatever manager and connection and with whatever answers to come: the
kind of the error and its status say what became of the last request. -/
theorem classified_work (a : Api) (m : Manager) :
    Classified a m.wire (a.work.run m).1 (a.work.run m).2.wire :=
  (course_of_work a m).classified

end RemoteSql
