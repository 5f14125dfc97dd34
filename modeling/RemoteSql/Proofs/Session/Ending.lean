import Mathlib
import RemoteSql.Proofs.Session.History

/-!
# Ending sessions

A session has ended when it was logged out and has not been issued anew since. The server is asked
to end it once each time: a logout of a session that has ended sends nothing and succeeds, and when
the session is issued again, its next logout is sent again.
-/

namespace RemoteSql.Manager

variable {mark : String × String} {m : Manager} {s : Session}

/-- A password login that returned a session. -/
def Issues (mark : String × String) (e : Event Call) : Prop :=
  ∃ u d n pw s url, e.call = .login u d n pw ∧ e.result = .ok (some s) ∧ s.mark = mark ∧
    .post url (loginForm pw) ∈ e.requests

/-- A logout, sent or not. -/
def Ends (mark : String × String) (e : Event Call) : Prop :=
  ∃ s, e.call = .logout s ∧ s.mark = mark

abbrev Ended (mark : String × String) (events : List (Event Call)) : Prop :=
  Since (Ends mark) (Issues mark) events

/-- The sessions that a manager remembers as ended are those that its history ended. -/
structure Faithful (t : History) : Prop where
  nodup : t.state.ended.Nodup
  mem_iff : ∀ mark, mark ∈ t.state.ended ↔ Ended mark t.events

theorem not_issues_of_call {e : Event Call} (h : ∀ u d n pw, e.call ≠ .login u d n pw) :
    ¬Issues mark e := by
  rintro ⟨u, d, n, pw, s, url, hcall, -⟩
  exact h u d n pw hcall

theorem not_ends_of_call {e : Event Call} (h : ∀ s, e.call ≠ .logout s) : ¬Ends mark e := by
  rintro ⟨s, hcall, -⟩
  exact h s hcall

theorem not_ends_of_issues {e : Event Call} (h : Issues mark e) : ¬Ends mark e := by
  obtain ⟨u, d, n, pw, s, url, hcall, -⟩ := h
  apply not_ends_of_call
  rw [hcall]
  simp

section Next

variable {t : History} {k : Call} {e : Event Call} {m' : Manager}

/-- A call that neither ends nor issues a session leaves the ended ones as they are. -/
theorem Faithful.next_of_quiet (h : Faithful t) (hstep : k.step t.state = (e, m'))
    (hended : m'.ended = t.state.ended) (hends : ∀ mark, ¬Ends mark e)
    (hissues : ∀ mark, ¬Issues mark e) : Faithful (t.next Call.step k) := by
  rw [Trace.next_of_step hstep]
  constructor
  · rw [hended]
    exact h.nodup
  · intro mark
    rw [hended, Ended, since_concat, h.mem_iff]
    have hmark := hends mark
    have hmark' := hissues mark
    tauto

theorem Faithful.next_of_issues (h : Faithful t) (hstep : k.step t.state = (e, m'))
    (hended : m'.ended = t.state.ended.erase s.mark)
    (hissues : ∀ mark, Issues mark e ↔ mark = s.mark) : Faithful (t.next Call.step k) := by
  have hends : ∀ mark, ¬Ends mark e := by
    intro mark
    apply not_ends_of_call
    obtain ⟨u, d, n, pw, s, url, hcall, -⟩ := (hissues s.mark).mpr rfl
    rw [hcall]
    simp
  rw [Trace.next_of_step hstep]
  constructor
  · rw [hended]
    exact h.nodup.erase s.mark
  · intro mark
    have hmark := hends mark
    rw [hended, h.nodup.mem_erase_iff, Ended, since_concat, h.mem_iff, hissues]
    tauto

theorem Faithful.next_login (h : Faithful t) (u d n pw : String) :
    Faithful (t.next Call.step (.login u d n pw)) := by
  obtain ⟨r, requests, m', hseen, hstep⟩ := exists_step_login u d n pw t.state
  have hends : ∀ mark, ¬Ends mark ⟨.login u d n pw, r.map some, requests⟩ := by
    intro mark
    exact not_ends_of_call (by simp)
  cases hseen with
  | failed hended hstore =>
    apply h.next_of_quiet hstep hended hends
    rintro mark ⟨u, d, n, pw, s, url, -, hresult, -⟩
    cases hresult
  | resumed hended hstore hkey hfind hsent =>
    apply h.next_of_quiet hstep hended hends
    rintro mark ⟨u, d, n, pw, s, url, -, -, -, hrequest⟩
    exact hsent url _ hrequest
  | @issued s _ _ url hended hkey hfind hothers hurl hsent =>
    apply h.next_of_issues hstep hended
    intro mark
    constructor
    · rintro ⟨u, d, n, pw, s', url, -, hresult, hmark, -⟩
      cases hresult
      exact hmark.symm
    · rintro rfl
      exact ⟨u, d, n, pw, s, url, rfl, rfl, rfl, hsent⟩

theorem ended_concat_logout {events : List (Event Call)} {result : Except Error (Option Session)}
    {requests : List Request} :
    Ended mark (events ++ [⟨.logout s, result, requests⟩]) ↔ s.mark = mark ∨ Ended mark events := by
  have hends : Ends mark ⟨.logout s, result, requests⟩ ↔ s.mark = mark := by
    constructor
    · rintro ⟨s', hcall, hmark⟩
      cases hcall
      exact hmark
    · intro hmark
      exact ⟨s, rfl, hmark⟩
  have hissues : ¬Issues mark ⟨.logout s, result, requests⟩ := not_issues_of_call (by simp)
  rw [Ended, since_concat, hends]
  tauto

theorem Faithful.next_logout (h : Faithful t) (s : Session) :
    Faithful (t.next Call.step (.logout s)) := by
  obtain ⟨r, requests, m', hseen, hstep⟩ := exists_step_logout s t.state
  rw [Trace.next_of_step hstep]
  cases hseen with
  | ended hmark =>
    constructor
    · exact h.nodup
    · intro mark
      rw [ended_concat_logout, ← h.mem_iff]
      constructor
      · exact Or.inr
      · rintro (rfl | hmark')
        · exact hmark
        · exact hmark'
  | unsent hmark hurl | sent _ hmark hurl =>
    constructor
    · exact List.nodup_cons.mpr ⟨hmark, h.nodup⟩
    · intro mark
      rw [ended_concat_logout, ← h.mem_iff, List.mem_cons, eq_comm]

theorem Faithful.next (h : Faithful t) (k : Call) : Faithful (t.next Call.step k) := by
  cases k with
  | login u d n pw => exact h.next_login u d n pw
  | logout s => exact h.next_logout s
  | resume u d n id =>
    apply h.next_of_quiet (step_resume u d n id t.state)
    · rfl
    · intro mark
      exact not_ends_of_call (by simp)
    · intro mark
      exact not_issues_of_call (by simp)

end Next

theorem faithful_run (wire : Wire) (store : SessionStore) (calls : List Call) :
    Faithful (Trace.run Call.step { wire, store } calls) := by
  apply Trace.run_induction
  · constructor
    · exact List.nodup_nil
    · intro mark
      change mark ∈ [] ↔ Ended mark []
      simp [not_since_nil]
  · intro t k h
    exact h.next k

/-- A session that a password login returned is on a server that can be reached. -/
theorem exists_serverPath_of_issues {k : Call} (h : Issues mark (k.step m).1)
    (segments : List String) : ∃ url, serverPath mark.1 segments = .ok url := by
  obtain ⟨u, d, n, pw, s, url, hcall, hresult, hmark, hrequest⟩ := h
  obtain rfl : k = .login u d n pw := hcall
  obtain ⟨r, requests, m', hseen, hstep⟩ := exists_step_login u d n pw m
  rw [hstep] at hresult hrequest
  cases hseen with
  | failed hended hstore => cases hresult
  | resumed hended hstore hkey hfind hsent => exact absurd hrequest (hsent _ _)
  | issued hended hkey hfind hothers hurl hsent =>
    cases hresult
    have hserver : s.serverUrl = u := congrArg SessionKey.serverUrl hkey
    rw [← hmark]
    change ∃ url, serverPath s.serverUrl segments = .ok url
    rw [hserver]
    exact exists_serverPath hurl segments

/-- How the logouts of a history reach the server. -/
structure EndsOnce (events : List (Event Call)) : Prop where
  /-- From a logout to a later one that is sent, a password login has returned the session. -/
  issued_between : ∀ (mark : String × String) (pre mid post : List (Event Call))
    (e₁ e₂ : Event Call), events = pre ++ e₁ :: (mid ++ e₂ :: post) →
    Ends mark e₁ → Ends mark e₂ → e₂.requests ≠ [] → ∃ e ∈ mid, Issues mark e
  ok_of_ended : ∀ (mark : String × String) (pre post : List (Event Call)) (e : Event Call),
    events = pre ++ e :: post → Ends mark e → Ended mark pre → e.result = .ok none ∧ e.requests = []
  /-- A logout that is not sent is one of an ended session, or the session has no URL for it. -/
  ended_of_unsent : ∀ (s : Session) (pre post : List (Event Call)) (e : Event Call),
    events = pre ++ e :: post → e.call = .logout s → e.requests = [] → Ended s.mark pre ∨
      ∃ fault, s.actionUrl "logout" none = .error fault ∧ e.result = .error fault
  sent_of_issued : ∀ (s : Session) (pre post : List (Event Call)) (e : Event Call),
    events = pre ++ e :: post → e.call = .logout s → Since (Issues s.mark) (Ends s.mark) pre →
      ∃ url, s.actionUrl "logout" none = .ok url ∧ e.requests = [.get url]
  sent_once : ∀ (s : Session) (pre post : List (Event Call)) (e : Event Call),
    events = pre ++ e :: post → e.call = .logout s →
      e.requests = [] ∨ ∃ url, s.actionUrl "logout" none = .ok url ∧ e.requests = [.get url]

section Run

variable {wire : Wire} {store : SessionStore} {calls : List Call} {pre post : List (Event Call)}
  {e : Event Call}

/-- A logout in a history is made on a manager that knows which sessions have ended. -/
theorem exists_logout (h : (Trace.run Call.step { wire, store } calls).events = pre ++ e :: post)
    (hcall : e.call = .logout s) :
    ∃ m m' result requests, (s.mark ∈ m.ended ↔ Ended s.mark pre) ∧
      LogoutSeen s m result requests m' ∧ e = ⟨.logout s, result.map fun _ => none, requests⟩ := by
  obtain ⟨calls', k, hpre, he⟩ := Trace.exists_call h
  have hk : k = .logout s := by
    rw [he] at hcall
    exact hcall
  subst hk
  have hmem := (faithful_run wire store calls').mem_iff s.mark
  generalize (Trace.run Call.step { wire, store } calls').state = m at hmem he
  rw [hpre] at hmem
  obtain ⟨r, requests, m', hseen, hstep⟩ := exists_step_logout s m
  rw [hstep] at he
  exact ⟨m, m', r, requests, hmem, hseen, he⟩

theorem exists_logoutUrl (h : (Trace.run Call.step { wire, store } calls).events = pre ++ post)
    (hissued : Since (Issues s.mark) (Ends s.mark) pre) :
    ∃ url, s.actionUrl "logout" none = .ok url := by
  obtain ⟨e, he, hissues⟩ := hissued.exists_mem
  obtain ⟨pre₁, pre₂, rfl⟩ := List.append_of_mem he
  rw [List.append_assoc] at h
  obtain ⟨calls', k, -, rfl⟩ := Trace.exists_call h
  exact exists_serverPath_of_issues hissues (s.segments "logout" none)

section Logout

variable (h : (Trace.run Call.step { wire, store } calls).events = pre ++ e :: post)
  (hcall : e.call = .logout s)

include h hcall

theorem not_ended_of_sent (hsent : e.requests ≠ []) : ¬Ended s.mark pre := by
  obtain ⟨m, m', result, requests, hm, hseen, rfl⟩ := exists_logout h hcall
  rw [← hm]
  cases hseen with
  | ended hmark => exact absurd rfl hsent
  | unsent hmark hurl | sent _ hmark hurl => exact hmark

theorem unsent_of_ended (hended : Ended s.mark pre) : e.result = .ok none ∧ e.requests = [] := by
  obtain ⟨m, m', result, requests, hm, hseen, rfl⟩ := exists_logout h hcall
  cases hseen with
  | ended hmark => exact ⟨rfl, rfl⟩
  | unsent hmark hurl | sent _ hmark hurl => exact absurd (hm.mpr hended) hmark

theorem ended_or_exists_of_unsent (hunsent : e.requests = []) :
    Ended s.mark pre ∨ ∃ fault, s.actionUrl "logout" none = .error fault ∧
      e.result = .error fault := by
  obtain ⟨m, m', result, requests, hm, hseen, rfl⟩ := exists_logout h hcall
  cases hseen with
  | ended hmark => exact Or.inl (hm.mp hmark)
  | unsent hmark hurl => exact Or.inr ⟨_, hurl, rfl⟩
  | sent _ hmark hurl => simp at hunsent

theorem exists_url_of_sent (hsent : e.requests ≠ []) :
    ∃ url, s.actionUrl "logout" none = .ok url ∧ e.requests = [.get url] := by
  obtain ⟨m, m', result, requests, hm, hseen, rfl⟩ := exists_logout h hcall
  cases hseen with
  | ended hmark | unsent hmark hurl => exact absurd rfl hsent
  | sent _ hmark hurl => exact ⟨_, hurl, rfl⟩

theorem sent_of_issued (hissued : Since (Issues s.mark) (Ends s.mark) pre) : e.requests ≠ [] := by
  intro hunsent
  rcases ended_or_exists_of_unsent h hcall hunsent with hended | ⟨fault, hfault, -⟩
  · exact hissued.not_since (fun e => not_ends_of_issues) hended
  · obtain ⟨url, hurl⟩ := exists_logoutUrl h hissued
    rw [hurl] at hfault
    cases hfault

end Logout

end Run

/-- The server is asked once to end a session, and once more each time that a password login has
returned it again. -/
theorem endsOnce_run (wire : Wire) (store : SessionStore) (calls : List Call) :
    EndsOnce (Trace.run Call.step { wire, store } calls).events := by
  constructor
  · intro mark pre mid post e₁ e₂ h hends₁ hends₂ hsent
    have h' : (Trace.run Call.step { wire, store } calls).events =
        (pre ++ e₁ :: mid) ++ e₂ :: post := by simpa using h
    obtain ⟨s, hcall, rfl⟩ := hends₂
    -- had nothing issued the session in between, it would have ended when the second one is sent
    have hended : ¬Ended s.mark (pre ++ e₁ :: mid) := not_ended_of_sent h' hcall hsent
    exact (since_or_exists hends₁).resolve_left hended
  · intro mark pre post e h hends hended
    obtain ⟨s, hcall, rfl⟩ := hends
    exact unsent_of_ended h hcall hended
  · intro s pre post e h hcall hunsent
    exact ended_or_exists_of_unsent h hcall hunsent
  · intro s pre post e h hcall hissued
    exact exists_url_of_sent h hcall (sent_of_issued h hcall hissued)
  · intro s pre post e h hcall
    by_cases hsent : e.requests = []
    · exact Or.inl hsent
    · exact Or.inr (exists_url_of_sent h hcall hsent)

/-- A logout takes the session's entry out of the cache unless the session has ended before; whether
the server is asked, and what it says, makes no difference. -/
theorem find?_logout_iff (wire : Wire) (store : SessionStore) (calls : List Call) (s : Session) :
    let t := Trace.run Call.step { wire, store } calls
    let t' := t.next Call.step (.logout s)
    (t'.state.store.find? s.key = none ↔
      ¬Ended s.mark t.events ∨ t.state.store.find? s.key = none) ∧
    ∀ k, k ≠ s.key → t'.state.store.find? k = t.state.store.find? k := by
  intro t t'
  have hmem : s.mark ∈ t.state.ended ↔ Ended s.mark t.events :=
    (faithful_run wire store calls).mem_iff s.mark
  obtain ⟨r, requests, m', hseen, hstep⟩ := exists_step_logout s t.state
  have hnext : t'.state = m' := congrArg Trace.state (Trace.next_of_step hstep)
  rw [hnext, ← hmem]
  cases hseen with
  | ended hmark =>
    constructor
    · simp [hmark]
    · intro k hk
      rfl
  | unsent hmark hurl | sent _ hmark hurl =>
    constructor
    · simp [hmark]
    · intro k hk
      exact SessionStore.find?_remove_of_ne hk _

/-- A server that takes a session up for a second user. -/
def sharedSession : Wire where
  exchanges :=
    ["\x7b\"status\":\"OK\",\"session_id\":\"s\",\"connection_id\":\"1\"\x7d",
      "\x7b\"status\":\"OK\",\"connection_id\":\"2\"\x7d",
      "\x7b\"status\":\"OK\"\x7d"].map fun text =>
        { answer := .ok ⟨{ pending := text.toUTF8.toList.map .octet }, ⟨200, "OK"⟩⟩ }

/-- Once the second user's session is logged out, logging out the first user's leaves its entry in
the cache. -/
theorem find?_logout_sharedSession :
    let first : Session := ⟨"http://h", "d", "a", "s", "1"⟩
    let second : Session := ⟨"http://h", "d", "b", "s", "2"⟩
    let t := Trace.run Call.step { wire := sharedSession }
      [.login "http://h" "d" "a" "p", .resume "http://h" "d" "b" "s", .logout second, .logout first]
    t.events.map (·.result.toOption) = [some (some first), some (some second), some none,
      some none] ∧ t.state.store.find? first.key = some "s" := by
  decide +kernel

end RemoteSql.Manager
