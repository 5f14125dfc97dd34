import Mathlib
import RemoteSql.Proofs.Session.Login

/-!
# Falling back on the password

The password goes to the server only where no cached session can stand in for it, and once at most.
The cache changes under the key of the login alone, and gives a session up only when the server has
refused it.
-/

namespace RemoteSql.Manager

variable {u d n pw id : String} {m m₁ : Manager} {w : Wire} {e : Error}

theorem require_eq_ok_iff (name value : String) :
    require name value = .ok () ↔ Text.isAllBlank value = false := by
  unfold require
  cases Text.isAllBlank value <;> simp

theorem resumeRequest_of_serverPath {url : String} (hu : Text.isAllBlank u = false)
    (hid : Text.isAllBlank id = false)
    (hurl : serverPath u ["session", id, "get_connection"] = .ok url) :
    resumeRequest u id = .ok (.get url) := by
  rw [resumeRequest, (require_eq_ok_iff _ _).mpr hu, (require_eq_ok_iff _ _).mpr hid, hurl]
  rfl

theorem serverPath_malformed {base : String} {fault : UrlFault} (h : Url.parse base = .error fault)
    (segments : List String) :
    serverPath base segments = .error (.transport (.malformedUrl fault)) := by
  rw [serverPath, h]

theorem ne_server_of_require {name value : String} (h : require name value = .error e)
    (detail : ErrorDetail) (status : HttpStatus) : e ≠ .server detail status := by
  unfold require at h
  split at h
  · cases h
    simp [Error.required]
  · cases h

theorem ne_server_of_serverPath {base : String} {segments : List String}
    (h : serverPath base segments = .error e) (detail : ErrorDetail) (status : HttpStatus) :
    e ≠ .server detail status := by
  unfold serverPath at h
  split at h
  · cases h
    simp
  · split at h
    · cases h
    · cases h
      simp

theorem ne_server_of_requiredField {envelope : Envelope} {field : String}
    (h : envelope.requiredField field = .error e) (detail : ErrorDetail) (status : HttpStatus) :
    e ≠ .server detail status := by
  unfold Envelope.requiredField at h
  split at h
  · cases h
  · cases h
    simp

/-- What keeps a session from being asked for is not the server. -/
theorem ne_server_of_resumeRequest (h : resumeRequest u id = .error e) (detail : ErrorDetail)
    (status : HttpStatus) : e ≠ .server detail status := by
  rcases eq_error_or_of_bind_eq_error h with h | ⟨-, -, h⟩
  · exact ne_server_of_require h detail status
  · rcases eq_error_or_of_bind_eq_error h with h | ⟨-, -, h⟩
    · exact ne_server_of_require h detail status
    · rcases eq_error_or_of_bind_eq_error h with h | ⟨url, -, h⟩
      · exact ne_server_of_serverPath h detail status
      · cases h

theorem not_isOk_of_resumed {reply : Reply} {detail : ErrorDetail} {status : HttpStatus}
    (h : resumed u d n id reply = .error (.server detail status)) :
    (Envelope.ofReply reply).isOk = false := by
  by_contra hok
  have hdocument := Reply.document_of_isOk (by simpa using hok)
  unfold resumed at h
  rcases eq_error_or_of_bind_eq_error h with h | ⟨envelope, -, h⟩
  · rw [hdocument] at h
    cases h
  · rcases eq_error_or_of_bind_eq_error h with h | ⟨connectionId, -, h⟩
    · exact ne_server_of_requiredField h detail status rfl
    · cases h

/-- The answer that refuses a session is a reply that reports no success. -/
theorem Refused.exists_reply (h : Refused u d n m id w) :
    ∃ url reply, serverPath u ["session", id, "get_connection"] = .ok url ∧
      w = m.wire.after (.get url) ∧ Wire.replyOf m.wire.upcoming.answer = .ok reply ∧
      (Envelope.ofReply reply).isOk = false := by
  obtain ⟨detail, status, hresume⟩ := h.refusal
  cases hr : resumeRequest u id with
  | error e =>
    rw [run_resume_error hr] at hresume
    cases hresume
    exact absurd rfl (ne_server_of_resumeRequest hr detail status)
  | ok r =>
    obtain ⟨url, hurl, rfl⟩ := exists_url_of_resumeRequest hr
    cases hreply : Wire.replyOf m.wire.upcoming.answer with
    | error e =>
      rw [run_resume_ok hr, hreply] at hresume
      cases hresume
      obtain ⟨fault, hfault⟩ := Wire.transport_of_replyOf hreply
      cases hfault
    | ok reply =>
      rw [run_resume_reply hr hreply] at hresume
      obtain ⟨hresult, hwire⟩ := Prod.mk.inj hresume
      exact ⟨url, reply, hurl, hwire.symm, rfl, not_isOk_of_resumed hresult⟩

/-- The requests for taking up the session that is cached for a login: one at most. -/
def Resumes (u d n : String) (m : Manager) (requests : List Request) : Prop :=
  requests = [] ∨ ∃ id url, m.store.find? ⟨u, n, d⟩ = some id ∧
    serverPath u ["session", id, "get_connection"] = .ok url ∧ requests = [.get url]

theorem Resumes.not_mem_post {requests : List Request} (h : Resumes u d n m requests)
    (url : String) (form : Form) : .post url form ∉ requests := by
  rcases h with rfl | ⟨id, url', -, -, rfl⟩
  · simp
  · simp

/-- The password may be sent: nothing is cached, or the reply to what was asked for the cached
session is no success. -/
def Unresumed (u d n : String) (m : Manager) (requests : List Request) : Prop :=
  m.store.find? ⟨u, n, d⟩ = none ∨ requests ≠ [] ∧ ∃ reply,
    Wire.replyOf m.wire.upcoming.answer = .ok reply ∧ (Envelope.ofReply reply).isOk = false

theorem exists_resumes (hfind : m.store.find? ⟨u, n, d⟩ = some id) :
    ∃ resumes, ((resume u d n id).run m.wire).2.sent = m.wire.sent ++ resumes ∧
      Resumes u d n m resumes := by
  rcases run_resume_snd u d n id m.wire with h | ⟨url, hurl, h⟩
  · exact ⟨[], by simp [h], Or.inl rfl⟩
  · exact ⟨[.get url], by rw [h]; rfl, Or.inr ⟨id, url, hfind, hurl, rfl⟩⟩

theorem Asking.exists_resumes (h : Asking u d n m m₁) :
    ∃ resumes, m₁.wire.sent = m.wire.sent ++ resumes ∧ Resumes u d n m resumes ∧
      Unresumed u d n m resumes := by
  cases h with
  | uncached hfind => exact ⟨[], by simp, Or.inl rfl, Or.inl hfind⟩
  | refused h =>
    obtain ⟨url, reply, hurl, rfl, hreply, hok⟩ := h.exists_reply
    refine ⟨[.get url], rfl, Or.inr ⟨_, url, h.found, hurl, rfl⟩, Or.inr ⟨?_, reply, hreply, hok⟩⟩
    simp

theorem exists_logins (u d n pw : String) (w : Wire) :
    ∃ logins, ((passwordLogin u d n pw).run w).2.sent = w.sent ++ logins ∧
      (logins = [] ∨ ∃ url, serverPath u ["database", d, "username", n, "login"] = .ok url ∧
        logins = [.post url (loginForm pw)]) := by
  rcases run_passwordLogin_snd u d n pw w with h | ⟨url, hurl, h⟩
  · exact ⟨[], by simp [h], Or.inl rfl⟩
  · exact ⟨[.post url (loginForm pw)], by rw [h]; rfl, Or.inr ⟨url, hurl, rfl⟩⟩

theorem Asking.store_cases (h : Asking u d n m m₁) :
    m₁.store = m.store ∧ m.store.find? ⟨u, n, d⟩ = none ∨
    m₁.store = m.store.remove ⟨u, n, d⟩ ∧ ∃ id w, Refused u d n m id w := by
  cases h with
  | uncached hfind => exact Or.inl ⟨rfl, hfind⟩
  | refused h => exact Or.inr ⟨rfl, _, _, h⟩

theorem Asking.find?_of_ne (h : Asking u d n m m₁) {k : SessionKey} (hk : k ≠ ⟨u, n, d⟩) :
    m₁.store.find? k = m.store.find? k := by
  rcases h.store_cases with ⟨h, -⟩ | ⟨h, -⟩
  · rw [h]
  · rw [h, SessionStore.find?_remove_of_ne hk]

/-- What a login does, whatever it comes to. -/
structure LoginEffect (u d n pw : String) (m : Manager) (r : Except Error Session × Manager) :
    Prop where
  /-- At most one request asks for the cached session, and at most one sends the password. -/
  sent : ∃ resumes logins : List Request, r.2.wire.sent = m.wire.sent ++ resumes ++ logins ∧
    Resumes u d n m resumes ∧
    (logins = [] ∨ Unresumed u d n m resumes ∧
      ∃ url, serverPath u ["database", d, "username", n, "login"] = .ok url ∧
        logins = [.post url (loginForm pw)])
  find?_of_ne : ∀ k, k ≠ ⟨u, n, d⟩ → r.2.store.find? k = m.store.find? k
  find?_of_ok : ∀ s, r.1 = .ok s → r.2.store.find? ⟨u, n, d⟩ = some s.sessionId
  /-- A login that fails leaves the cache as it was, or without the session that was refused. -/
  store_of_error : ∀ e, r.1 = .error e →
    r.2.store = m.store ∧ (¬∃ id w, Refused u d n m id w) ∨
    r.2.store = m.store.remove ⟨u, n, d⟩ ∧ ∃ id w, Refused u d n m id w
  /-- What keeps the cached session from being taken up, if it is not the server, is returned as it
  is. -/
  eq_of_stuck : requireLogin u d n = .ok () → ∀ id e w, m.store.find? ⟨u, n, d⟩ = some id →
    (resume u d n id).run m.wire = (.error e, w) → (∀ detail status, e ≠ .server detail status) →
    r = (.error e, { m with wire := w })
  eq_of_malformed : requireLogin u d n = .ok () → ∀ fault, Url.parse u = .error fault →
    (∀ id, m.store.find? ⟨u, n, d⟩ = some id → Text.isAllBlank id = false) →
    r = (.error (.transport (.malformedUrl fault)), m)
  eq_of_unanswered : requireLogin u d n = .ok () → ∀ id request e,
    m.store.find? ⟨u, n, d⟩ = some id → resumeRequest u id = .ok request →
    Wire.replyOf m.wire.upcoming.answer = .error e →
    r = (.error e, { m with wire := m.wire.after request })
  eq_of_unconnected : requireLogin u d n = .ok () → ∀ id request reply envelope e,
    m.store.find? ⟨u, n, d⟩ = some id → resumeRequest u id = .ok request →
    Wire.replyOf m.wire.upcoming.answer = .ok reply → reply.document = .ok envelope →
    envelope.requiredField "connection_id" = .error e →
    r = (.error e, { m with wire := m.wire.after request })

theorem LoginCase.exists_sent {r : Except Error Session × Manager} (h : LoginCase u d n pw m r) :
    ∃ resumes logins : List Request, r.2.wire.sent = m.wire.sent ++ resumes ++ logins ∧
      Resumes u d n m resumes ∧
      (logins = [] ∨ Unresumed u d n m resumes ∧
        ∃ url, serverPath u ["database", d, "username", n, "login"] = .ok url ∧
          logins = [.post url (loginForm pw)]) := by
  cases h with
  | incomplete h => exact ⟨[], [], by simp, Or.inl rfl, Or.inl rfl⟩
  | resumed hfind hresume | stuck hfind hresume hserver =>
    obtain ⟨resumes, hsent, hresumes⟩ := exists_resumes hfind
    rw [hresume] at hsent
    exact ⟨resumes, [], by simpa using hsent, hresumes, Or.inl rfl⟩
  | failed hasking hlogin | fresh hasking hlogin =>
    obtain ⟨resumes, hsent, hresumes, hunresumed⟩ := hasking.exists_resumes
    obtain ⟨logins, hsent', hlogins⟩ := exists_logins u d n pw _
    rw [hlogin, hsent] at hsent'
    exact ⟨resumes, logins, hsent', hresumes, hlogins.imp_right fun h => ⟨hunresumed, h⟩⟩

theorem LoginCase.find?_of_ne {r : Except Error Session × Manager} (h : LoginCase u d n pw m r)
    {k : SessionKey} (hk : k ≠ ⟨u, n, d⟩) : r.2.store.find? k = m.store.find? k := by
  cases h with
  | incomplete h => rfl
  | resumed hfind hresume | stuck hfind hresume hserver => rfl
  | failed hasking hlogin => exact hasking.find?_of_ne hk
  | fresh hasking hlogin => exact (SessionStore.find?_set_of_ne hk _ _).trans (hasking.find?_of_ne hk)

theorem LoginCase.find?_of_ok {r : Except Error Session × Manager} (h : LoginCase u d n pw m r)
    {s : Session} (hok : r.1 = .ok s) : r.2.store.find? ⟨u, n, d⟩ = some s.sessionId := by
  cases h with
  | incomplete h => cases hok
  | stuck hfind hresume hserver => cases hok
  | failed hasking hlogin => cases hok
  | resumed hfind hresume =>
    cases hok
    rw [(eq_of_run_resume hresume).2]
    exact hfind
  | fresh hasking hlogin =>
    cases hok
    exact SessionStore.find?_set_self _ _ _

theorem LoginCase.store_of_error {r : Except Error Session × Manager} (h : LoginCase u d n pw m r)
    (herror : r.1 = .error e) :
    r.2.store = m.store ∧ (¬∃ id w, Refused u d n m id w) ∨
    r.2.store = m.store.remove ⟨u, n, d⟩ ∧ ∃ id w, Refused u d n m id w := by
  cases h with
  | resumed hfind hresume => cases herror
  | fresh hasking hlogin => cases herror
  | incomplete h =>
    refine Or.inl ⟨rfl, ?_⟩
    rintro ⟨id, w, hrefused⟩
    rw [hrefused.required] at h
    cases h
  | stuck hfind hresume hserver =>
    refine Or.inl ⟨rfl, ?_⟩
    rintro ⟨id, w, hrefused⟩
    obtain rfl : _ = id := Option.some.inj (hfind.symm.trans hrefused.found)
    obtain ⟨detail, status, hrefusal⟩ := hrefused.refusal
    rw [hresume] at hrefusal
    cases hrefusal
    exact hserver detail status rfl
  | failed hasking hlogin =>
    rcases hasking.store_cases with ⟨hstore, hfind⟩ | hrefused
    · refine Or.inl ⟨hstore, ?_⟩
      rintro ⟨id, w, hrefused⟩
      rw [hrefused.found] at hfind
      cases hfind
    · exact Or.inr hrefused

section Required

variable (hrequire : requireLogin u d n = .ok ())

include hrequire

/-- Unless the server refuses the session, what keeps it from being taken up ends the login. -/
theorem run_login_stuck (hfind : m.store.find? ⟨u, n, d⟩ = some id)
    (hresume : (resume u d n id).run m.wire = (.error e, w))
    (hserver : ∀ detail status, e ≠ .server detail status) :
    (login u d n pw).run m = (.error e, { m with wire := w }) := by
  rw [run_login_cached hrequire hfind, hresume]
  cases e with
  | server detail status => exact absurd rfl (hserver detail status)
  | _ => rfl

theorem run_login_malformed {fault : UrlFault} (hurl : Url.parse u = .error fault)
    (hid : ∀ id, m.store.find? ⟨u, n, d⟩ = some id → Text.isAllBlank id = false) :
    (login u d n pw).run m = (.error (.transport (.malformedUrl fault)), m) := by
  cases hfind : m.store.find? ⟨u, n, d⟩ with
  | none =>
    have hrequest : passwordRequest u d n pw = .error (.transport (.malformedUrl fault)) := by
      rw [passwordRequest, serverPath_malformed hurl]
      rfl
    rw [run_login_uncached hrequire hfind, run_freshLogin, run_passwordLogin_error hrequest]
  | some id =>
    have hrequest : resumeRequest u id = .error (.transport (.malformedUrl fault)) := by
      obtain ⟨_, hu, -⟩ := exists_of_bind_eq_ok hrequire
      have hid' := (require_eq_ok_iff "session_id" id).mpr (hid id hfind)
      rw [resumeRequest, hu, hid', serverPath_malformed hurl]
      rfl
    exact run_login_stuck hrequire hfind (run_resume_error hrequest d n m.wire) (by simp)

theorem run_login_unanswered {request : Request} (hfind : m.store.find? ⟨u, n, d⟩ = some id)
    (hrequest : resumeRequest u id = .ok request)
    (hreply : Wire.replyOf m.wire.upcoming.answer = .error e) :
    (login u d n pw).run m = (.error e, { m with wire := m.wire.after request }) := by
  apply run_login_stuck hrequire hfind
  · rw [run_resume_ok hrequest, hreply]
    rfl
  · intro detail status
    obtain ⟨fault, rfl⟩ := Wire.transport_of_replyOf hreply
    simp

theorem run_login_unconnected {request : Request} {reply : Reply} {envelope : Envelope}
    (hfind : m.store.find? ⟨u, n, d⟩ = some id) (hrequest : resumeRequest u id = .ok request)
    (hreply : Wire.replyOf m.wire.upcoming.answer = .ok reply)
    (hdocument : reply.document = .ok envelope)
    (hfield : envelope.requiredField "connection_id" = .error e) :
    (login u d n pw).run m = (.error e, { m with wire := m.wire.after request }) := by
  apply run_login_stuck hrequire hfind
  · rw [run_resume_reply hrequest hreply, resumed, hdocument]
    change (envelope.requiredField "connection_id" >>= _, _) = _
    rw [hfield]
    rfl
  · exact ne_server_of_requiredField hfield

end Required

/-- Whatever is cached and whatever the wire brings: a login asks at most once for the cached session
and sends the password at most once, where nothing is cached or what is cached was refused; only its
own key changes in the cache, to the session that it returns or, if it fails, away from a session
that was refused. -/
theorem login_effect (u d n pw : String) (m : Manager) :
    LoginEffect u d n pw m ((login u d n pw).run m) := by
  have hcases := login_cases u d n pw m
  exact {
    sent := hcases.exists_sent
    find?_of_ne := fun k hk => hcases.find?_of_ne hk
    find?_of_ok := fun s hok => hcases.find?_of_ok hok
    store_of_error := fun e herror => hcases.store_of_error herror
    eq_of_stuck := fun hrequire id e w hfind hresume hserver =>
      run_login_stuck hrequire hfind hresume hserver
    eq_of_malformed := fun hrequire fault hurl hid => run_login_malformed hrequire hurl hid
    eq_of_unanswered := fun hrequire id request e hfind hrequest hreply =>
      run_login_unanswered hrequire hfind hrequest hreply
    eq_of_unconnected := fun hrequire id request reply envelope e hfind hrequest hreply hdocument
      hfield => run_login_unconnected hrequire hfind hrequest hreply hdocument hfield }

end RemoteSql.Manager
