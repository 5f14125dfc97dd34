import Mathlib
import RemoteSql.Proofs.Envelope.Verdict
import RemoteSql.Proofs.Fallible
import RemoteSql.Proofs.Http.Exchange
import RemoteSql.Session.Manager

/-!
# What a login does

A login asks the server to take up the session in the cache, if there is one, and sends the password
if there is none or if the server refuses it. All that it can come to is told here once, and with it
what becomes of the cache and which requests are made.
-/

namespace RemoteSql

theorem Envelope.requiredField_eq_ok_iff {e : Envelope} {field value : String} :
    e.requiredField field = .ok value ↔ e.field? field = some value ∧ value ≠ "" := by
  have hfilter : e.requiredField field = .ok value ↔
      (e.field? field).filter (· != "") = some value := by
    unfold requiredField
    split
    · next h => simp [h]
    · next h => simp [h]
  rw [hfilter, Option.filter_eq_some_iff]
  simp

/-- A reply that gives a session out: a success whose members name the session and the connection
that it begins with. -/
def Reply.Grants (r : Reply) (sessionId connectionId : String) : Prop :=
  ∃ ms, Envelope.Declares r.body .ok ms ∧
    (Json.FieldText ms "session_id" (some sessionId) ∧ sessionId ≠ "") ∧
    Json.FieldText ms "connection_id" (some connectionId) ∧ connectionId ≠ ""

namespace Manager

/-- The request that takes up a session by its id. -/
def resumeRequest (serverUrl sessionId : String) : Except Error Request := do
  require "server_url" serverUrl
  require "session_id" sessionId
  let url ← serverPath serverUrl ["session", sessionId, "get_connection"]
  return .get url

/-- The session that the reply to its resumption gives. -/
def resumed (serverUrl database username sessionId : String) (r : Reply) :
    Except Error Session := do
  let envelope ← r.document
  let connectionId ← envelope.requiredField "connection_id"
  return { serverUrl, database, username, sessionId, connectionId }

/-- The request that sends the password. -/
def passwordRequest (serverUrl database username password : String) : Except Error Request := do
  let url ← serverPath serverUrl ["database", database, "username", username, "login"]
  return .post url (loginForm password)

/-- Refuses a login that does not say where, to what and as whom. -/
def requireLogin (serverUrl database username : String) : Except Error Unit := do
  require "server_url" serverUrl
  require "database" database
  require "username" username

variable {u d n pw id : String} {m m₁ : Manager} {w w' : Wire} {s : Session} {e : Error}

theorem sessionOf_of_declares {reply : Reply} {ms : List (String × Json)}
    (h : Envelope.Declares reply.body .ok ms) :
    sessionOf u d n reply = (do
      let sessionId ← (Envelope.ofReply reply).requiredField "session_id"
      let connectionId ← (Envelope.ofReply reply).requiredField "connection_id"
      return ⟨u, d, n, sessionId, connectionId⟩) := by
  rw [sessionOf, Envelope.ofReply_of_ok h]

/-- A session is made of a reply exactly if the reply gives it out. -/
theorem sessionOf_eq_ok_iff {reply : Reply} :
    sessionOf u d n reply = .ok s ↔
      s.key = ⟨u, n, d⟩ ∧ reply.Grants s.sessionId s.connectionId := by
  by_cases hok : ∃ ms, Envelope.Declares reply.body .ok ms
  · obtain ⟨ms, hms⟩ := hok
    rw [sessionOf_of_declares hms]
    constructor
    · intro h
      obtain ⟨sessionId, hsession, h⟩ := exists_of_bind_eq_ok h
      obtain ⟨connectionId, hconnection, h⟩ := exists_of_bind_eq_ok h
      cases h
      rw [Envelope.requiredField_eq_ok_iff, Envelope.field?_ofReply_eq_iff hms] at hsession
      rw [Envelope.requiredField_eq_ok_iff, Envelope.field?_ofReply_eq_iff hms] at hconnection
      exact ⟨rfl, ms, hms, hsession, hconnection⟩
    · rintro ⟨hkey, ms', hms', hsession, hconnection⟩
      obtain rfl := hms'.unique hms
      rw [← Envelope.field?_ofReply_eq_iff hms, ← Envelope.requiredField_eq_ok_iff] at hsession
      rw [← Envelope.field?_ofReply_eq_iff hms, ← Envelope.requiredField_eq_ok_iff] at hconnection
      obtain ⟨rfl, rfl, rfl⟩ := SessionKey.mk.inj hkey
      rw [hsession, hconnection]
      rfl
  · constructor
    · intro h
      have hverdict : (Envelope.ofReply reply).isOk = true := by
        unfold sessionOf at h
        dsimp only at h
        split at h
        · cases h
        · next hsuccess => rw [Envelope.isOk, hsuccess]
      exact absurd ((Envelope.isOk_ofReply_iff reply).mp hverdict) hok
    · rintro ⟨-, ms, hms, -⟩
      exact absurd ⟨ms, hms⟩ hok

theorem resume_eq_exchange (u d n id : String) :
    resume u d n id =
      Wire.exchange (resumeRequest u id) fun r => r.readReply >>= resumed u d n id := by
  have hreply : ∀ reply : Reply, (do
      let envelope ← reply.document
      let connectionId ← envelope.requiredField "connection_id"
      return ⟨u, d, n, id, connectionId⟩ : WireM Session) = liftM (resumed u d n id reply) := by
    intro reply
    simp [resumed]
  unfold resume resumeRequest
  simp only [hreply, Wire.get_eq_exchange, Wire.exchange_bind_lift, Wire.lift_bind_exchange]
  rfl

theorem passwordLogin_eq_exchange (u d n pw : String) :
    passwordLogin u d n pw =
      Wire.exchange (passwordRequest u d n pw) fun r => r.readReply >>= sessionOf u d n := by
  unfold passwordLogin passwordRequest
  simp only [Wire.post_eq_exchange, Wire.exchange_bind_lift, Wire.lift_bind_exchange]
  rfl

theorem run_resume_ok {r : Request} (h : resumeRequest u id = .ok r) (d n : String) (w : Wire) :
    (resume u d n id).run w =
      ((Wire.replyOf w.upcoming.answer).bind (resumed u d n id), w.after r) := by
  rw [resume_eq_exchange, h, Wire.run_exchange_ok, Wire.responseOf_bind_readReply]

theorem run_resume_reply {r : Request} {reply : Reply} (h : resumeRequest u id = .ok r)
    (hreply : Wire.replyOf w.upcoming.answer = .ok reply) (d n : String) :
    (resume u d n id).run w = (resumed u d n id reply, w.after r) := by
  rw [run_resume_ok h, hreply]
  simp only [Except.bind]

theorem run_resume_error (h : resumeRequest u id = .error e) (d n : String) (w : Wire) :
    (resume u d n id).run w = (.error e, w) := by
  rw [resume_eq_exchange, h, Wire.run_exchange_error]

theorem run_passwordLogin_ok {r : Request} (h : passwordRequest u d n pw = .ok r) (w : Wire) :
    (passwordLogin u d n pw).run w =
      ((Wire.replyOf w.upcoming.answer).bind (sessionOf u d n), w.after r) := by
  rw [passwordLogin_eq_exchange, h, Wire.run_exchange_ok, Wire.responseOf_bind_readReply]

theorem run_passwordLogin_error (h : passwordRequest u d n pw = .error e) (w : Wire) :
    (passwordLogin u d n pw).run w = (.error e, w) := by
  rw [passwordLogin_eq_exchange, h, Wire.run_exchange_error]

theorem exists_url_of_resumeRequest {r : Request} (h : resumeRequest u id = .ok r) :
    ∃ url, serverPath u ["session", id, "get_connection"] = .ok url ∧ r = .get url := by
  obtain ⟨-, -, h⟩ := exists_of_bind_eq_ok h
  obtain ⟨-, -, h⟩ := exists_of_bind_eq_ok h
  obtain ⟨url, hurl, h⟩ := exists_of_bind_eq_ok h
  exact ⟨url, hurl, (Except.ok.inj h).symm⟩

theorem exists_url_of_passwordRequest {r : Request} (h : passwordRequest u d n pw = .ok r) :
    ∃ url, serverPath u ["database", d, "username", n, "login"] = .ok url ∧
      r = .post url (loginForm pw) := by
  obtain ⟨url, hurl, h⟩ := exists_of_bind_eq_ok h
  exact ⟨url, hurl, (Except.ok.inj h).symm⟩

/-- A session is taken up with one request, or there is a reason not to make it. -/
theorem run_resume_snd (u d n id : String) (w : Wire) :
    ((resume u d n id).run w).2 = w ∨
    ∃ url, serverPath u ["session", id, "get_connection"] = .ok url ∧
      ((resume u d n id).run w).2 = w.after (.get url) := by
  cases hr : resumeRequest u id with
  | error e =>
    rw [run_resume_error hr]
    exact Or.inl rfl
  | ok r =>
    rw [run_resume_ok hr]
    obtain ⟨url, hurl, rfl⟩ := exists_url_of_resumeRequest hr
    exact Or.inr ⟨url, hurl, rfl⟩

theorem run_passwordLogin_snd (u d n pw : String) (w : Wire) :
    ((passwordLogin u d n pw).run w).2 = w ∨
    ∃ url, serverPath u ["database", d, "username", n, "login"] = .ok url ∧
      ((passwordLogin u d n pw).run w).2 = w.after (.post url (loginForm pw)) := by
  cases hr : passwordRequest u d n pw with
  | error e =>
    rw [run_passwordLogin_error hr]
    exact Or.inl rfl
  | ok r =>
    rw [run_passwordLogin_ok hr]
    obtain ⟨url, hurl, rfl⟩ := exists_url_of_passwordRequest hr
    exact Or.inr ⟨url, hurl, rfl⟩

/-- A session that is taken up keeps the id under which it is taken up. -/
theorem eq_of_run_resume (h : (resume u d n id).run w = (.ok s, w')) :
    s.key = ⟨u, n, d⟩ ∧ s.sessionId = id := by
  have hok : ((resume u d n id).run w).1 = .ok s := by rw [h]
  cases hr : resumeRequest u id with
  | error e =>
    rw [run_resume_error hr] at hok
    cases hok
  | ok r =>
    rw [run_resume_ok hr] at hok
    obtain ⟨reply, -, hs⟩ := exists_of_bind_eq_ok hok
    obtain ⟨envelope, -, hs⟩ := exists_of_bind_eq_ok hs
    obtain ⟨connectionId, -, hs⟩ := exists_of_bind_eq_ok hs
    cases hs
    exact ⟨rfl, rfl⟩

theorem key_of_run_passwordLogin (h : (passwordLogin u d n pw).run w = (.ok s, w')) :
    s.key = ⟨u, n, d⟩ := by
  have hok : ((passwordLogin u d n pw).run w).1 = .ok s := by rw [h]
  cases hr : passwordRequest u d n pw with
  | error e =>
    rw [run_passwordLogin_error hr] at hok
    cases hok
  | ok r =>
    rw [run_passwordLogin_ok hr] at hok
    obtain ⟨reply, -, hs⟩ := exists_of_bind_eq_ok hok
    exact (sessionOf_eq_ok_iff.mp hs).1

/-- A password login that succeeds has sent the password. -/
theorem sent_of_run_passwordLogin (h : (passwordLogin u d n pw).run w = (.ok s, w')) :
    ∃ url, serverPath u ["database", d, "username", n, "login"] = .ok url ∧
      w' = w.after (.post url (loginForm pw)) := by
  cases hr : passwordRequest u d n pw with
  | error e =>
    rw [run_passwordLogin_error hr] at h
    cases h
  | ok r =>
    rw [run_passwordLogin_ok hr] at h
    obtain ⟨url, hurl, rfl⟩ := exists_url_of_passwordRequest hr
    exact ⟨url, hurl, (congrArg Prod.snd h).symm⟩

theorem run_onWire {α : Type} (x : WireM α) (m : Manager) :
    (onWire x).run m = ((x.run m.wire).1, { m with wire := (x.run m.wire).2 }) := rfl

theorem run_freshLogin (u d n pw : String) (m : Manager) :
    (freshLogin u d n pw).run m = match (passwordLogin u d n pw).run m.wire with
      | (.error e, w) => (.error e, { m with wire := w })
      | (.ok s, w) => (.ok s, {
          wire := w
          ended := m.ended.erase (s.serverUrl, s.sessionId)
          store := m.store.set ⟨u, n, d⟩ s.sessionId }) := by
  unfold freshLogin
  rw [run_bind, run_onWire]
  obtain ⟨r | r, w⟩ := (passwordLogin u d n pw).run m.wire <;> rfl

theorem run_login_error (h : requireLogin u d n = .error e) (pw : String) (m : Manager) :
    (login u d n pw).run m = (.error e, m) := by
  unfold login
  unfold requireLogin at h
  cases hu : require "server_url" u with
  | error e' =>
    rw [hu] at h
    cases h
    rfl
  | ok _ =>
    cases hd : require "database" d with
    | error e' =>
      rw [hu, hd] at h
      cases h
      rfl
    | ok _ =>
      rw [hu, hd] at h
      change require "username" n = .error e at h
      rw [h]
      rfl

section Required

variable (hrequire : requireLogin u d n = .ok ())

include hrequire

theorem run_login_ok (pw : String) (m : Manager) :
    (login u d n pw).run m = (match m.store.find? ⟨u, n, d⟩ with
      | none => freshLogin u d n pw
      | some id => tryCatch (onWire (resume u d n id)) fun e =>
        match e with
        | .server _ _ => do
          modify fun m => { m with store := m.store.remove ⟨u, n, d⟩ }
          freshLogin u d n pw
        | e => throw e : ManagerM Session).run m := by
  obtain ⟨_, hu, hrequire⟩ := exists_of_bind_eq_ok hrequire
  obtain ⟨_, hd, hn⟩ := exists_of_bind_eq_ok hrequire
  unfold login
  rw [hu, hd, hn]
  rfl

theorem run_login_uncached (h : m.store.find? ⟨u, n, d⟩ = none) (pw : String) :
    (login u d n pw).run m = (freshLogin u d n pw).run m := by
  rw [run_login_ok hrequire, h]

theorem run_login_cached (h : m.store.find? ⟨u, n, d⟩ = some id) (pw : String) :
    (login u d n pw).run m = match (resume u d n id).run m.wire with
      | (.ok s, w) => (.ok s, { m with wire := w })
      | (.error (.server _ _), w) =>
        (freshLogin u d n pw).run { m with wire := w, store := m.store.remove ⟨u, n, d⟩ }
      | (.error e, w) => (.error e, { m with wire := w }) := by
  rw [run_login_ok hrequire, h]
  dsimp only
  rw [run_tryCatch, run_onWire]
  obtain ⟨e | s, w⟩ := (resume u d n id).run m.wire
  · cases e <;> rfl
  · rfl

end Required

/-- A cached session that the server, asked for it, does not accept. -/
structure Refused (u d n : String) (m : Manager) (id : String) (w : Wire) : Prop where
  required : requireLogin u d n = .ok ()
  found : m.store.find? ⟨u, n, d⟩ = some id
  refusal : ∃ detail status, (resume u d n id).run m.wire = (.error (.server detail status), w)

/-- The manager that comes to send the password: nothing is cached, or what is cached was refused
and has been given up. -/
inductive Asking (u d n : String) (m : Manager) : Manager → Prop
  | uncached (h : m.store.find? ⟨u, n, d⟩ = none) : Asking u d n m m
  | refused {id : String} {w : Wire} (h : Refused u d n m id w) :
    Asking u d n m { m with wire := w, store := m.store.remove ⟨u, n, d⟩ }

/-- What a login can come to, and the manager after it. -/
inductive LoginCase (u d n pw : String) (m : Manager) : Except Error Session × Manager → Prop
  | incomplete {e : Error} (h : requireLogin u d n = .error e) : LoginCase u d n pw m (.error e, m)
  | resumed {id : String} {s : Session} {w : Wire} (hfind : m.store.find? ⟨u, n, d⟩ = some id)
    (hresume : (resume u d n id).run m.wire = (.ok s, w)) :
    LoginCase u d n pw m (.ok s, { m with wire := w })
  | stuck {id : String} {e : Error} {w : Wire} (hfind : m.store.find? ⟨u, n, d⟩ = some id)
    (hresume : (resume u d n id).run m.wire = (.error e, w))
    (hserver : ∀ detail status, e ≠ .server detail status) :
    LoginCase u d n pw m (.error e, { m with wire := w })
  | failed {m₁ : Manager} {e : Error} {w : Wire} (hasking : Asking u d n m m₁)
    (hlogin : (passwordLogin u d n pw).run m₁.wire = (.error e, w)) :
    LoginCase u d n pw m (.error e, { m₁ with wire := w })
  | fresh {m₁ : Manager} {s : Session} {w : Wire} (hasking : Asking u d n m m₁)
    (hlogin : (passwordLogin u d n pw).run m₁.wire = (.ok s, w)) :
    LoginCase u d n pw m (.ok s, {
      wire := w
      ended := m₁.ended.erase (s.serverUrl, s.sessionId)
      store := m₁.store.set ⟨u, n, d⟩ s.sessionId })

theorem loginCase_of_asking (h : Asking u d n m m₁) :
    LoginCase u d n pw m ((freshLogin u d n pw).run m₁) := by
  rw [run_freshLogin]
  cases hlogin : (passwordLogin u d n pw).run m₁.wire with
  | mk r w =>
    cases r with
    | error e => exact .failed h hlogin
    | ok s => exact .fresh h hlogin

theorem login_cases (u d n pw : String) (m : Manager) :
    LoginCase u d n pw m ((login u d n pw).run m) := by
  cases hrequire : requireLogin u d n with
  | error e =>
    rw [run_login_error hrequire]
    exact .incomplete hrequire
  | ok _ =>
    cases hfind : m.store.find? ⟨u, n, d⟩ with
    | none =>
      rw [run_login_uncached hrequire hfind]
      exact loginCase_of_asking (.uncached hfind)
    | some id =>
      rw [run_login_cached hrequire hfind]
      split
      · next s w hresume => exact .resumed hfind hresume
      · next detail status w hresume =>
        exact loginCase_of_asking (.refused ⟨hrequire, hfind, detail, status, hresume⟩)
      · next e w hne hresume => exact .stuck hfind hresume hne

end Manager

end RemoteSql
