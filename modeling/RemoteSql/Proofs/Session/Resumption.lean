import Mathlib
import RemoteSql.Proofs.Session.History

/-!
# Logging in again

A login keeps the id of its session, and the next login of the triple asks for that session before
anything else. Where the first one got through, the next one reaches the server as well, unless the
id is blank: such an id is kept but never asked for, and it keeps its triple out until the session
is logged out.
-/

namespace RemoteSql.Manager

variable {u d n pw id : String} {m m₁ : Manager} {w w' : Wire} {s : Session}

theorem requireLogin_of_run_login (h : (login u d n pw).run m = (.ok s, m₁)) :
    requireLogin u d n = .ok () := by
  cases hrequire : requireLogin u d n with
  | ok _ => rfl
  | error e =>
    rw [run_login_error hrequire] at h
    cases h

theorem loginCase_of_run {r : Except Error Session × Manager} (h : (login u d n pw).run m = r) :
    LoginCase u d n pw m r := h ▸ login_cases u d n pw m

theorem resumeRequest_of_blank (hu : Text.isAllBlank u = false) (hid : Text.isAllBlank id = true) :
    resumeRequest u id = .error (.required "session_id") := by
  have hrequire : require "session_id" id = .error (.required "session_id") := by
    rw [require, if_pos hid]
  rw [resumeRequest, (require_eq_ok_iff _ _).mpr hu, hrequire]
  rfl

theorem exists_url_of_run_resume (h : (resume u d n id).run w = (.ok s, w')) :
    ∃ url, serverPath u ["session", id, "get_connection"] = .ok url := by
  cases hr : resumeRequest u id with
  | error e =>
    rw [run_resume_error hr] at h
    cases h
  | ok r =>
    obtain ⟨url, hurl, -⟩ := exists_url_of_resumeRequest hr
    exact ⟨url, hurl⟩

theorem resumed_of_document {reply : Reply} {envelope : Envelope}
    (hdocument : reply.document = .ok envelope)
    (hfield : envelope.field? "connection_id" = some id) (hid : id ≠ "")
    (u d n sessionId : String) : resumed u d n sessionId reply = .ok ⟨u, d, n, sessionId, id⟩ := by
  have hrequired := Envelope.requiredField_eq_ok_iff.mpr ⟨hfield, hid⟩
  rw [resumed, hdocument]
  change envelope.requiredField "connection_id" >>= _ = _
  rw [hrequired]
  rfl

/-- What a login that succeeds has found out: the server can be reached, and the session is one of
the triple. -/
theorem LoginCase.reached {r : Except Error Session × Manager} (h : LoginCase u d n pw m r)
    (hok : r.1 = .ok s) :
    s.key = ⟨u, n, d⟩ ∧ ∃ segments url, serverPath u segments = .ok url := by
  cases h with
  | incomplete h => cases hok
  | stuck hfind hresume hserver => cases hok
  | failed hasking hlogin => cases hok
  | resumed hfind hresume =>
    cases hok
    obtain ⟨url, hurl⟩ := exists_url_of_run_resume hresume
    exact ⟨(eq_of_run_resume hresume).1, _, url, hurl⟩
  | fresh hasking hlogin =>
    cases hok
    obtain ⟨url, hurl, -⟩ := sent_of_run_passwordLogin hlogin
    exact ⟨key_of_run_passwordLogin hlogin, _, url, hurl⟩

/-- A login asks for the session of an earlier one before anything else, and is done with the
connection that the server gives for it. -/
structure TakesUp (u d n pw : String) (s : Session) (url : String) (m : Manager) : Prop where
  asks : m.wire.sent ++ [.get url] <+: ((login u d n pw).run m).2.wire.sent
  connects : ∀ reply id, Wire.replyOf m.wire.upcoming.answer = .ok reply →
    (Envelope.ofReply reply).isOk = true →
    (Envelope.ofReply reply).field? "connection_id" = some id → id ≠ "" →
    (login u d n pw).run m =
      (.ok { s with connectionId := id }, { m with wire := m.wire.after (.get url) })

theorem sent_freshLogin (u d n pw : String) (m : Manager) :
    m.wire.sent <+: ((freshLogin u d n pw).run m).2.wire.sent := by
  obtain ⟨logins, hsent, -⟩ := exists_logins u d n pw m.wire
  rw [run_freshLogin]
  cases hlogin : (passwordLogin u d n pw).run m.wire with
  | mk r w =>
    rw [hlogin] at hsent
    cases r with
    | error e | ok s => exact ⟨logins, hsent.symm⟩

theorem sent_login_cached (hrequire : requireLogin u d n = .ok ())
    (hfind : m.store.find? ⟨u, n, d⟩ = some id) {r : Request} (hr : resumeRequest u id = .ok r)
    (pw : String) : m.wire.sent ++ [r] <+: ((login u d n pw).run m).2.wire.sent := by
  have hsent : ((resume u d n id).run m.wire).2.sent = m.wire.sent ++ [r] := by
    rw [run_resume_ok hr]
    rfl
  rw [run_login_cached hrequire hfind, ← hsent]
  split
  · next s w hresume =>
    rw [hresume]
  · next detail status w hresume =>
    rw [hresume]
    exact sent_freshLogin u d n pw { m with wire := w, store := _ }
  · next e w hserver hresume =>
    rw [hresume]

theorem takesUp_of_resumeRequest (hrequire : requireLogin u d n = .ok ())
    (hkey : s.key = ⟨u, n, d⟩) (hfind : m.store.find? ⟨u, n, d⟩ = some s.sessionId) {url : String}
    (hr : resumeRequest u s.sessionId = .ok (.get url)) (pw : String) :
    TakesUp u d n pw s url m := by
  obtain ⟨rfl, rfl, rfl⟩ := SessionKey.mk.inj hkey
  constructor
  · exact sent_login_cached hrequire hfind hr pw
  · intro reply id hreply hok hfield hid
    rw [run_login_cached hrequire hfind, run_resume_reply hr hreply,
      resumed_of_document (Reply.document_of_isOk hok) hfield hid]

section Blank

variable (hid : Text.isAllBlank id = true) (hfind : m.store.find? ⟨u, n, d⟩ = some id)

include hid hfind

theorem run_login_blank (hrequire : requireLogin u d n = .ok ()) (pw : String) :
    (login u d n pw).run m = (.error (.required "session_id"), m) := by
  obtain ⟨_, hu, -⟩ := exists_of_bind_eq_ok hrequire
  have hrequest := resumeRequest_of_blank ((require_eq_ok_iff _ _).mp hu) hid
  exact run_login_stuck hrequire hfind (run_resume_error hrequest d n m.wire)
    (by simp [Error.required])

/-- No call takes a blank id out of the cache but a logout of its session. -/
theorem find?_step_of_blank (k : Call) (hk : ∀ s, k = .logout s → s.key ≠ ⟨u, n, d⟩) :
    (k.step m).2.store.find? ⟨u, n, d⟩ = some id := by
  cases k with
  | login u' d' n' pw =>
    by_cases hkey : (⟨u', n', d'⟩ : SessionKey) = ⟨u, n, d⟩
    · obtain ⟨rfl, rfl, rfl⟩ := SessionKey.mk.inj hkey
      cases hrequire : requireLogin u' d' n' with
      | error e =>
        rw [Call.step, Call.work, run_map, run_login_error hrequire]
        exact hfind
      | ok _ =>
        rw [Call.step, Call.work, run_map, run_login_blank hid hfind hrequire]
        exact hfind
    · -- a login of another triple changes its own entry alone
      rw [Call.step, Call.work, run_map]
      exact ((login_cases u' d' n' pw m).find?_of_ne (Ne.symm hkey)).trans hfind
  | resume u' d' n' id' =>
    rw [step_resume]
    exact hfind
  | logout s =>
    obtain ⟨r, requests, m', hseen, hstep⟩ := exists_step_logout s m
    rw [hstep]
    rcases hseen.store_cases with hstore | hstore
    · rw [hstore]
      exact hfind
    · rw [hstore, SessionStore.find?_remove_of_ne (hk s rfl).symm]
      exact hfind

theorem find?_run_of_blank (ks : List Call) (hks : ∀ s, .logout s ∈ ks → s.key ≠ ⟨u, n, d⟩) :
    (Trace.run Call.step m ks).state.store.find? ⟨u, n, d⟩ = some id := by
  induction ks using List.reverseRecOn with
  | nil => exact hfind
  | append_singleton ks k ih =>
    rw [Trace.run_concat]
    apply find?_step_of_blank hid (ih fun s hs => hks s (List.mem_append_left _ hs))
    rintro s rfl
    exact hks s (by simp)

end Blank

/-- The triple of a session with a blank id is kept out: each login of it fails before it asks the
server, and it stays so through all calls but a logout of the session. -/
structure LockedOut (u d n : String) (m₁ : Manager) : Prop where
  fails : ∀ pw m, m.store.find? ⟨u, n, d⟩ = m₁.store.find? ⟨u, n, d⟩ →
    (login u d n pw).run m = (.error (.required "session_id"), m)
  stays : ∀ ks, (∀ s, .logout s ∈ ks → s.key ≠ ⟨u, n, d⟩) →
    (Trace.run Call.step m₁ ks).state.store.find? ⟨u, n, d⟩ = m₁.store.find? ⟨u, n, d⟩

/-- As long as its session stays in the cache, a login is followed by logins of the same triple that
take the session up, whatever else has changed, unless the id of the session is blank. -/
theorem login_again (h : (login u d n pw).run m = (.ok s, m₁)) :
    (Text.isAllBlank s.sessionId = false →
      ∃ url, serverPath u ["session", s.sessionId, "get_connection"] = .ok url ∧
        ∀ pw' m₂, m₂.store.find? ⟨u, n, d⟩ = m₁.store.find? ⟨u, n, d⟩ →
          TakesUp u d n pw' s url m₂) ∧
    (Text.isAllBlank s.sessionId = true → LockedOut u d n m₁) := by
  have hrequire := requireLogin_of_run_login h
  have hcases := loginCase_of_run h
  have hfind := hcases.find?_of_ok rfl
  constructor
  · intro hid
    obtain ⟨hkey, segments, url, hurl⟩ := hcases.reached rfl
    obtain ⟨url, hurl⟩ := exists_serverPath hurl ["session", s.sessionId, "get_connection"]
    obtain ⟨_, hu, -⟩ := exists_of_bind_eq_ok hrequire
    have hrequest : resumeRequest u s.sessionId = .ok (.get url) :=
      resumeRequest_of_serverPath ((require_eq_ok_iff _ _).mp hu) hid hurl
    refine ⟨url, hurl, ?_⟩
    intro pw' m₂ hstore
    exact takesUp_of_resumeRequest hrequire hkey (hstore.trans hfind) hrequest pw'
  · intro hid
    constructor
    · intro pw' m₂ hstore
      exact run_login_blank hid (hstore.trans hfind) hrequire pw'
    · intro ks hks
      rw [find?_run_of_blank hid hfind ks hks, hfind]

/-- A server that gives a session the id and connects it again when it is asked for it. -/
def granting (id : String) : Manager where
  wire := {
    exchanges :=
      ["\x7b\"status\":\"OK\",\"session_id\":\"" ++ id ++ "\",\"connection_id\":\"1\"\x7d",
        "\x7b\"status\":\"OK\",\"connection_id\":\"2\"\x7d"].map fun text =>
          { answer := .ok ⟨{ pending := text.toUTF8.toList.map .octet }, ⟨200, "OK"⟩⟩ } }

theorem login_again_granted :
    TakesUp "http://h" "d" "n" "p" ⟨"http://h", "d", "n", "s", "1"⟩
      "http://h/session/s/get_connection"
      ((login "http://h" "d" "n" "p").run (granting "s")).2 := by
  have hlogin : ((login "http://h" "d" "n" "p").run (granting "s")).1 =
      .ok ⟨"http://h", "d", "n", "s", "1"⟩ := eq_ok_of_toOption (by decide +kernel)
  obtain ⟨url, hurl, htakesUp⟩ := (login_again (Prod.ext hlogin rfl)).1 (by decide)
  have hurl' : serverPath "http://h" ["session", "s", "get_connection"] =
      .ok "http://h/session/s/get_connection" := eq_ok_of_toOption (by decide +kernel)
  obtain rfl : "http://h/session/s/get_connection" = url :=
    Except.ok.inj (hurl'.symm.trans hurl)
  exact htakesUp "p" _ rfl

/-- A session of one blank is given, and the next login fails without asking for it. -/
theorem login_again_blank :
    ∃ m₁, (login "http://h" "d" "n" "p").run (granting " ") =
        (.ok ⟨"http://h", "d", "n", " ", "1"⟩, m₁) ∧
      (login "http://h" "d" "n" "p").run m₁ = (.error (.required "session_id"), m₁) := by
  have hlogin : ((login "http://h" "d" "n" "p").run (granting " ")).1 =
      .ok ⟨"http://h", "d", "n", " ", "1"⟩ := eq_ok_of_toOption (by decide +kernel)
  obtain ⟨m₁, hrun⟩ : ∃ m₁, (login "http://h" "d" "n" "p").run (granting " ") =
      (.ok ⟨"http://h", "d", "n", " ", "1"⟩, m₁) := ⟨_, Prod.ext hlogin rfl⟩
  exact ⟨m₁, hrun, run_login_blank (by decide) ((loginCase_of_run hrun).find?_of_ok rfl)
    (requireLogin_of_run_login hrun) "p"⟩

end RemoteSql.Manager
