import Mathlib
import RemoteSql.Proofs.Session.Fallback
import RemoteSql.Proofs.Trace

/-!
# Histories of a manager

A manager is called to log in, to take up a session and to log one out, in any order. Of each call
it is seen what it returned and which requests it made, and that tells what it did to what the
manager shares.
-/

namespace RemoteSql

/-- What logging out ends: a session of a server. -/
def Session.mark (s : Session) : String × String := (s.serverUrl, s.sessionId)

/-- The requests made on the way from one wire to a later one. -/
def Wire.since (w w' : Wire) : List Request := w'.sent.drop w.sent.length

theorem Wire.since_of_sent {w w' : Wire} {requests : List Request}
    (h : w'.sent = w.sent ++ requests) : w.since w' = requests := by
  rw [since, h, List.drop_left]

theorem Wire.since_self (w : Wire) : w.since w = [] := List.drop_length

/-- A call, what it returned and the requests that it made. -/
structure Event (κ : Type) where
  call : κ
  result : Except Error (Option Session)
  requests : List Request

/-- Where the server can be reached by one path, it can be by any. -/
theorem exists_serverPath {base : String} {segments : List String} {url : String}
    (h : serverPath base segments = .ok url) (segments' : List String) :
    ∃ url', serverPath base segments' = .ok url' := by
  unfold serverPath at h ⊢
  split at h
  · cases h
  · split at h
    · next hsegments => exact ⟨_, if_pos hsegments⟩
    · cases h

namespace Manager

variable {u d n : String} {m m₁ : Manager} {s : Session}

inductive Call
  | login (serverUrl database username password : String)
  | resume (serverUrl database username sessionId : String)
  | logout (s : Session)

def Call.work : Call → ManagerM (Option Session)
  | .login u d n pw => some <$> Manager.login u d n pw
  | .resume u d n id => some <$> onWire (Manager.resume u d n id)
  | .logout s => do
    Manager.logout s
    return none

/-- Makes a call. -/
def Call.step (k : Call) (m : Manager) : Event Call × Manager :=
  let (result, m') := k.work.run m
  (⟨k, result, m.wire.since m'.wire⟩, m')

abbrev History := Trace Manager (Event Call)

/-- What is seen of a login, and what it does to what is shared. -/
inductive LoginSeen (u d n pw : String) (m : Manager) :
    Except Error Session → List Request → Manager → Prop
  | failed {e : Error} {requests : List Request} {m' : Manager} (hended : m'.ended = m.ended)
    (hstore : m'.store = m.store ∨ m'.store = m.store.remove ⟨u, n, d⟩) :
    LoginSeen u d n pw m (.error e) requests m'
  | resumed {s : Session} {requests : List Request} {m' : Manager} (hended : m'.ended = m.ended)
    (hstore : m'.store = m.store) (hkey : s.key = ⟨u, n, d⟩)
    (hfind : m.store.find? ⟨u, n, d⟩ = some s.sessionId)
    (hsent : ∀ url form, .post url form ∉ requests) : LoginSeen u d n pw m (.ok s) requests m'
  | issued {s : Session} {requests : List Request} {m' : Manager} {url : String}
    (hended : m'.ended = m.ended.erase s.mark) (hkey : s.key = ⟨u, n, d⟩)
    (hfind : m'.store.find? ⟨u, n, d⟩ = some s.sessionId)
    (hothers : ∀ k, k ≠ ⟨u, n, d⟩ → m'.store.find? k = m.store.find? k)
    (hurl : serverPath u ["database", d, "username", n, "login"] = .ok url)
    (hsent : .post url (loginForm pw) ∈ requests) : LoginSeen u d n pw m (.ok s) requests m'

theorem Asking.ended_eq (h : Asking u d n m m₁) : m₁.ended = m.ended := by
  cases h <;> rfl

theorem login_seen (u d n pw : String) (m : Manager) :
    LoginSeen u d n pw m ((login u d n pw).run m).1
      (m.wire.since ((login u d n pw).run m).2.wire) ((login u d n pw).run m).2 := by
  have hcases := login_cases u d n pw m
  generalize (login u d n pw).run m = r at hcases ⊢
  have hothers : ∀ k, k ≠ ⟨u, n, d⟩ → r.2.store.find? k = m.store.find? k :=
    fun k hk => hcases.find?_of_ne hk
  cases hcases with
  | incomplete h | stuck hfind hresume hserver => exact .failed rfl (Or.inl rfl)
  | resumed hfind hresume =>
    obtain ⟨hkey, rfl⟩ := eq_of_run_resume hresume
    obtain ⟨resumes, hsent, hresumes⟩ := exists_resumes hfind
    rw [hresume] at hsent
    refine .resumed rfl rfl hkey hfind ?_
    rw [Wire.since_of_sent hsent]
    exact hresumes.not_mem_post
  | failed hasking hlogin =>
    exact .failed hasking.ended_eq (hasking.store_cases.imp And.left And.left)
  | @fresh m₁ s w hasking hlogin =>
    obtain ⟨url, hurl, rfl⟩ := sent_of_run_passwordLogin hlogin
    obtain ⟨resumes, hsent, -⟩ := hasking.exists_resumes
    have hsent' : (m₁.wire.after (.post url (loginForm pw))).sent =
        m.wire.sent ++ (resumes ++ [.post url (loginForm pw)]) := by
      rw [Wire.after, hsent, List.append_assoc]
    refine .issued ?_ (key_of_run_passwordLogin hlogin) ?_ hothers hurl ?_
    · rw [← hasking.ended_eq]
      rfl
    · exact SessionStore.find?_set_self _ _ _
    · rw [Wire.since_of_sent hsent']
      simp

/-- A session that has ended is left alone. -/
theorem run_logout_of_mem (h : s.mark ∈ m.ended) : (logout s).run m = (.ok (), m) := by
  have hget : (get : ManagerM Manager).run m = (.ok m, m) := rfl
  have hended : m.ended.contains (s.serverUrl, s.sessionId) = true := List.contains_iff_mem.mpr h
  unfold logout
  rw [run_bind, hget]
  dsimp only
  rw [if_pos hended]
  rfl

/-- A session that has not ended leaves the cache, whatever the server says. -/
theorem run_logout_of_not_mem (h : s.mark ∉ m.ended) :
    (logout s).run m = (((s.getAction "logout" none).run m.wire).1.map fun _ => (), {
      wire := ((s.getAction "logout" none).run m.wire).2
      ended := s.mark :: m.ended
      store := m.store.remove s.key }) := by
  have hget : (get : ManagerM Manager).run m = (.ok m, m) := rfl
  have hmodify (f : Manager → Manager) : (modify f : ManagerM PUnit).run m = (.ok (), f m) := rfl
  have hended : ¬m.ended.contains (s.serverUrl, s.sessionId) = true :=
    fun hended => h (List.contains_iff_mem.mp hended)
  unfold logout
  rw [run_bind, hget]
  dsimp only
  rw [if_neg hended, run_bind, hmodify]
  dsimp only
  rw [run_bind, run_onWire]
  obtain ⟨e | r, w⟩ := (s.getAction "logout" none).run m.wire
  · rfl
  · rfl

/-- What is seen of a logout, and what it does to what is shared. -/
inductive LogoutSeen (s : Session) (m : Manager) :
    Except Error Unit → List Request → Manager → Prop
  | ended (hmark : s.mark ∈ m.ended) : LogoutSeen s m (.ok ()) [] m
  | unsent {fault : Error} (hmark : s.mark ∉ m.ended)
    (hurl : s.actionUrl "logout" none = .error fault) :
    LogoutSeen s m (.error fault) []
      { m with ended := s.mark :: m.ended, store := m.store.remove s.key }
  | sent {url : String} (result : Except Error Unit) (hmark : s.mark ∉ m.ended)
    (hurl : s.actionUrl "logout" none = .ok url) :
    LogoutSeen s m result [.get url] {
      wire := m.wire.after (.get url)
      ended := s.mark :: m.ended
      store := m.store.remove s.key }

theorem LogoutSeen.store_cases {r : Except Error Unit} {requests : List Request} {m' : Manager}
    (h : LogoutSeen s m r requests m') : m'.store = m.store ∨ m'.store = m.store.remove s.key := by
  cases h with
  | ended hmark => exact Or.inl rfl
  | unsent hmark hurl | sent _ hmark hurl => exact Or.inr rfl

theorem logout_seen (s : Session) (m : Manager) :
    LogoutSeen s m ((logout s).run m).1 (m.wire.since ((logout s).run m).2.wire)
      ((logout s).run m).2 := by
  by_cases hmark : s.mark ∈ m.ended
  · rw [run_logout_of_mem hmark, Wire.since_self]
    exact .ended hmark
  · rw [run_logout_of_not_mem hmark]
    cases hurl : s.actionUrl "logout" none with
    | error fault =>
      rw [Session.run_getAction_error hurl, Wire.since_self]
      exact .unsent hmark hurl
    | ok url =>
      have hsent : m.wire.since (m.wire.after (.get url)) = [.get url] := Wire.since_of_sent rfl
      rw [Session.run_getAction_ok hurl, hsent]
      exact .sent _ hmark hurl

theorem step_resume (u d n id : String) (m : Manager) :
    (Call.resume u d n id).step m =
      (⟨.resume u d n id, ((resume u d n id).run m.wire).1.map some,
        m.wire.since ((resume u d n id).run m.wire).2⟩,
        { m with wire := ((resume u d n id).run m.wire).2 }) := by
  rw [Call.step, Call.work, run_map, run_onWire]

theorem step_login (u d n pw : String) (m : Manager) :
    (Call.login u d n pw).step m =
      (⟨.login u d n pw, ((login u d n pw).run m).1.map some,
        m.wire.since ((login u d n pw).run m).2.wire⟩, ((login u d n pw).run m).2) := by
  rw [Call.step, Call.work, run_map]

theorem exists_step_login (u d n pw : String) (m : Manager) :
    ∃ r requests m', LoginSeen u d n pw m r requests m' ∧
      (Call.login u d n pw).step m = (⟨.login u d n pw, r.map some, requests⟩, m') :=
  ⟨_, _, _, login_seen u d n pw m, step_login u d n pw m⟩

theorem exists_step_logout (s : Session) (m : Manager) :
    ∃ r requests m', LogoutSeen s m r requests m' ∧
      (Call.logout s).step m = (⟨.logout s, r.map fun _ => none, requests⟩, m') := by
  refine ⟨_, _, _, logout_seen s m, ?_⟩
  rw [Call.step, Call.work, run_bind]
  obtain ⟨e | r, m'⟩ := (logout s).run m
  · rfl
  · rfl

end Manager

end RemoteSql
