import Mathlib
import RemoteSql.Client.Basic
import RemoteSql.Proofs.Connection.Operation
import RemoteSql.Proofs.Session.Issue

/-!
# Sharing the session cache

Any number of managers and clients share a cache, and the connections that they open run on beside
each other. Only a password login writes the cache, under the key that it was made for, so a login
never returns a session that was issued for another key or that a later login has replaced.
-/

namespace RemoteSql

/-- Managers that share a cache, and the connections opened with them. A client is told from its
manager only by what it is set to, and the clones of a manager are one. -/
structure Fleet where
  wire : Wire
  store : SessionStore := []
  /-- What each manager remembers as ended. -/
  ended : Nat → List (String × String) := fun _ => []
  /-- The connections, each with its manager. -/
  connections : List (Nat × Connection) := []

namespace Fleet

abbrev FleetM := ExceptT Error (StateM Fleet)

/-- A manager of the fleet. -/
def manager (f : Fleet) (i : Nat) : Manager where
  wire := f.wire
  store := f.store
  ended := f.ended i

section Work

variable {α : Type}

def onManager (i : Nat) (x : ManagerM α) : FleetM α := fun f =>
  let (r, m) := x.run (f.manager i)
  (r, { f with wire := m.wire, store := m.store, ended := Function.update f.ended i m.ended })

theorem run_onManager (i : Nat) (x : ManagerM α) (f : Fleet) :
    (onManager i x).run f = ((x.run (f.manager i)).1, { f with
      wire := (x.run (f.manager i)).2.wire
      store := (x.run (f.manager i)).2.store
      ended := Function.update f.ended i (x.run (f.manager i)).2.ended }) := rfl

def onWire (x : WireM α) : FleetM α := fun f =>
  let (r, wire) := x.run f.wire
  (r, { f with wire })

/-- Keeps a connection, opened with a manager, as the last one. -/
def keep (i : Nat) (c : Connection) : FleetM (Option Session) := do
  modify fun f => { f with connections := f.connections ++ [(i, c)] }
  return some c.session

def replace (j i : Nat) (c : Connection) : FleetM Unit :=
  modify fun f => { f with connections := f.connections.set j (i, c) }

/-- Works with a connection, if there is one of that number. -/
def withConnection (j : Nat) (x : Nat → Connection → FleetM (Option Session)) :
    FleetM (Option Session) := do
  match (← get).connections[j]? with
  | none => return none
  | some (i, c) => x i c

end Work

inductive Call
  | manager (i : Nat) (k : Manager.Call)
  | connect (i : Nat) (c : Client) (database username password : String)
  | connectBySessionId (i : Nat) (c : Client) (database username sessionId : String)
  | duplicate (j : Nat)
  | close (j : Nat)
  | logout (j : Nat)
  | operate (j : Nat) (o : Connection.Operation)

namespace Call

def work : Call → FleetM (Option Session)
  | .manager i k => onManager i k.work
  | .connect i c d n pw => do
    let c' ← onManager i (c.connect d n pw)
    keep i c'
  | .connectBySessionId i c d n id => do
    let c' ← onWire (c.connectBySessionId d n id)
    keep i c'
  | .duplicate j => withConnection j fun i c => do
    let c' ← onWire c.duplicate
    keep i c'
  | .close j => withConnection j fun i c => do
    replace j i c.close.1
    onWire c.close.2
    return none
  | .logout j => withConnection j fun i c => do
    replace j i c.logout.1
    onManager i c.logout.2
    return none
  | .operate j o => withConnection j fun _ c => do
    onWire (o.work c)
    return none

/-- The key and the password of a login, whether a manager makes it or a client. -/
def login? : Call → Option (SessionKey × String)
  | .manager _ (.login u d n pw) => some (⟨u, n, d⟩, pw)
  | .connect _ c d n pw => some (⟨c.serverUrl, n, d⟩, pw)
  | _ => none

def isLogout : Call → Bool
  | .manager _ (.logout _) => true
  | .logout _ => true
  | _ => false

end Call

/-- A call, what it returned, and the requests that it made, each with its answer. -/
structure Event where
  call : Call
  result : Except Error (Option Session)
  answered : List (Request × Except String Response)

def Call.step (k : Call) (f : Fleet) : Event × Fleet :=
  let (result, f') := k.work.run f
  (⟨k, result, f.wire.answered f'.wire⟩, f')

/-- A login for a key that sent the password, and was given a session of this id by the reply. -/
def Issues (key : SessionKey) (id : String) (e : Event) : Prop :=
  ∃ pw, e.call.login? = some (key, pw) ∧ Manager.Issued key pw id e.answered

/-- A login for a key that sent the password, and returned a session of this id. -/
structure Succeeds (key : SessionKey) (id : String) (e : Event) : Prop where
  login : ∃ pw, e.call.login? = some (key, pw)
  returned : ∃ s, e.result = .ok (some s) ∧ s.sessionId = id
  sent : ∃ url form answer, (.post url form, answer) ∈ e.answered

/-- Of the sessions that were given out for a key, the latest has this id. -/
def Latest (key : SessionKey) (id : String) (events : List Event) : Prop :=
  Since (Issues key id) (fun e => ∃ id', Issues key id' e) events

/-- The second cache has no entries but those of the first. -/
def Within (store store' : SessionStore) : Prop :=
  ∀ key id, store'.find? key = some id → store.find? key = some id

section Frame

variable {α β : Type} {R : SessionStore → SessionStore → Prop}

/-- Work that takes the cache only where a relation leads. -/
def Moves (R : SessionStore → SessionStore → Prop) (x : FleetM α) : Prop :=
  ∀ f, R f.store (x.run f).2.store

theorem Moves.bind [IsTrans SessionStore R] {x : FleetM β} {g : β → FleetM α} (hx : Moves R x)
    (hg : ∀ b, Moves R (g b)) : Moves R (x >>= g) := by
  intro f
  have hx' := hx f
  rw [run_bind]
  generalize x.run f = r at hx'
  obtain ⟨e | b, f'⟩ := r
  · exact hx'
  · exact IsTrans.trans _ _ _ hx' (hg b f')

instance : IsPreorder SessionStore Within where
  refl _ _ _ h := h
  trans _ _ _ hab hbc key id h := hab key id (hbc key id h)

variable [IsPreorder SessionStore R]

theorem moves_get : Moves R (get : FleetM Fleet) := fun f => refl f.store

theorem moves_pure (a : α) : Moves R (pure a : FleetM α) := fun f => refl f.store

theorem moves_onWire (x : WireM α) : Moves R (onWire x) := fun f => refl f.store

theorem moves_keep (i : Nat) (c : Connection) : Moves R (keep i c) := fun f => refl f.store

theorem moves_replace (j i : Nat) (c : Connection) : Moves R (replace j i c) :=
  fun f => refl f.store

theorem Moves.withConnection {x : Nat → Connection → FleetM (Option Session)}
    (h : ∀ i c, Moves R (x i c)) (j : Nat) : Moves R (withConnection j x) := by
  unfold Fleet.withConnection
  refine Moves.bind moves_get ?_
  intro f
  cases f.connections[j]? with
  | none => exact moves_pure none
  | some ic => exact h ic.1 ic.2

end Frame

section Step

variable {R : SessionStore → SessionStore → Prop} [IsPreorder SessionStore R] {k : Call}
  {key : SessionKey} {pw id : String}

/-- Only logins and logouts touch the cache. -/
theorem moves_of_quiet (hlogin : k.login? = none) (hlogout : k.isLogout = false) :
    Moves R k.work := by
  cases k with
  | manager i k =>
    cases k with
    | login u d n pw => cases hlogin
    | logout s => cases hlogout
    | resume u d n id =>
      intro f
      change R f.store ((some <$> Manager.onWire (Manager.resume u d n id)).run _).2.store
      rw [run_map, Manager.run_onWire]
      exact refl f.store
  | connect i c d n pw => cases hlogin
  | logout j => cases hlogout
  | connectBySessionId i c d n id =>
    refine Moves.bind (moves_onWire _) ?_
    intro c'
    exact moves_keep i c'
  | duplicate j =>
    apply Moves.withConnection
    intro i c
    refine Moves.bind (moves_onWire _) ?_
    intro c'
    exact moves_keep i c'
  | close j =>
    apply Moves.withConnection
    intro i c
    refine Moves.bind (moves_replace j i _) ?_
    intro _
    refine Moves.bind (moves_onWire _) ?_
    intro _
    exact moves_pure none
  | operate j o =>
    apply Moves.withConnection
    intro i c
    refine Moves.bind (moves_onWire _) ?_
    intro _
    exact moves_pure none

theorem within_remove (store : SessionStore) (key : SessionKey) :
    Within store (store.remove key) := by
  intro key' id hfind
  by_cases hkey : key' = key
  · rw [hkey, SessionStore.find?_remove_self] at hfind
    cases hfind
  · rwa [SessionStore.find?_remove_of_ne hkey] at hfind

theorem within_of_logoutSeen {s : Session} {m m' : Manager} {r : Except Error Unit}
    {requests : List Request} (h : Manager.LogoutSeen s m r requests m') :
    Within m.store m'.store := by
  rcases h.store_cases with h | h
  · rw [h]
    exact refl m.store
  · rw [h]
    exact within_remove m.store s.key

theorem step_manager (i : Nat) (k : Manager.Call) (f : Fleet) :
    ((Call.manager i k).step f).1 =
        ⟨.manager i k, (k.step (f.manager i)).1.result,
          f.wire.answered (k.step (f.manager i)).2.wire⟩ ∧
      ((Call.manager i k).step f).2.store = (k.step (f.manager i)).2.store :=
  ⟨rfl, rfl⟩

theorem within_of_not_login (hlogin : k.login? = none) : Moves Within k.work := by
  by_cases hlogout : k.isLogout = true
  · cases k with
    | manager i k =>
      cases k with
      | login u d n pw => cases hlogin
      | resume u d n id => cases hlogout
      | logout s =>
        intro f
        obtain ⟨r, requests, m', hseen, hstep⟩ := Manager.exists_step_logout s (f.manager i)
        change Within f.store ((Call.manager i (.logout s)).step f).2.store
        rw [(step_manager i _ f).2, hstep]
        exact within_of_logoutSeen hseen
    | logout j =>
      apply Moves.withConnection
      intro i c
      refine Moves.bind (moves_replace j i _) ?_
      intro _
      refine Moves.bind ?_ ?_
      · unfold Connection.logout
        split
        · intro f
          exact refl f.store
        · intro f
          exact within_of_logoutSeen (Manager.logout_seen c.session (f.manager i))
      · intro _
        exact moves_pure none
    | _ => cases hlogout
  · exact moves_of_quiet hlogin (by simpa using hlogout)

theorem step_connect (i : Nat) (c : Client) (d n pw : String) (f : Fleet) :
    let r := (Manager.login c.serverUrl d n pw).run (f.manager i)
    let k := Call.connect i c d n pw
    (k.step f).1 = ⟨k, r.1.map some, f.wire.answered r.2.wire⟩ ∧
      (k.step f).2.store = r.2.store := by
  intro r k
  have hconnect : c.connect d n pw =
      (fun session => { session, options := c.options : Connection }) <$>
        Manager.login c.serverUrl d n pw := bind_pure_comp _ _
  have hmanager : (onManager i (c.connect d n pw)).run f =
      (r.1.map fun session => { session, options := c.options : Connection }, { f with
        wire := r.2.wire
        store := r.2.store
        ended := Function.update f.ended i r.2.ended }) := by
    rw [run_onManager, hconnect, run_map]
  have hwork : k.work.run f = (onManager i (c.connect d n pw) >>= keep i).run f := rfl
  have hrun : (k.work.run f).1 = r.1.map some ∧ (k.work.run f).2.wire = r.2.wire ∧
      (k.work.run f).2.store = r.2.store := by
    rw [hwork, run_bind, hmanager]
    clear_value r
    obtain ⟨e | s, m'⟩ := r
    · exact ⟨rfl, rfl, rfl⟩
    · exact ⟨rfl, rfl, rfl⟩
  obtain ⟨hresult, hwire, hstore⟩ := hrun
  refine ⟨?_, hstore⟩
  change ⟨_, (k.work.run f).1, f.wire.answered (k.work.run f).2.wire⟩ = (_ : Event)
  rw [hresult, hwire]

/-- A login, whether a manager makes it or a client, is a login of a manager with this cache. -/
theorem exists_login (h : k.login? = some (key, pw)) (f : Fleet) :
    ∃ m r, (Manager.login key.serverUrl key.database key.username pw).run m = r ∧
      m.store = f.store ∧ r.2.store = (k.step f).2.store ∧
      (k.step f).1 = ⟨k, r.1.map some, m.wire.answered r.2.wire⟩ := by
  cases k with
  | manager i k =>
    cases k with
    | login u d n pw' =>
      cases h
      obtain ⟨hevent, hstore⟩ := step_manager i (.login u d n pw) f
      rw [Manager.step_login] at hevent hstore
      exact ⟨f.manager i, _, rfl, rfl, hstore.symm, hevent⟩
    | resume u d n id => cases h
    | logout s => cases h
  | connect i c d n pw' =>
    cases h
    obtain ⟨hevent, hstore⟩ := step_connect i c d n pw f
    exact ⟨f.manager i, _, rfl, rfl, hstore.symm, hevent⟩
  | _ => cases h

theorem issues_step_iff (hlogin : k.login? = some (key, pw)) (f : Fleet) {key' : SessionKey} :
    Issues key' id (k.step f).1 ↔
      key' = key ∧ Manager.Issued key pw id (k.step f).1.answered := by
  constructor
  · rintro ⟨pw', hcall, hissued⟩
    change k.login? = some (key', pw') at hcall
    rw [hlogin] at hcall
    cases hcall
    exact ⟨rfl, hissued⟩
  · rintro ⟨rfl, hissued⟩
    exact ⟨pw, hlogin, hissued⟩

/-- How a login of a fleet is seen as one of a manager, and when it is given a session. -/
structure LoginStep (k : Call) (key : SessionKey) (pw : String) (f : Fleet) (m : Manager)
    (r : Except Error Session) (requests : List Request) (m' : Manager) : Prop where
  seen : Manager.LoginSeen key.serverUrl key.database key.username pw m r requests m'
  store_eq : m.store = f.store
  store_step : (k.step f).2.store = m'.store
  result_eq : (k.step f).1.result = r.map some
  mem_requests : ∀ request,
    request ∈ requests ↔ ∃ answer, (request, answer) ∈ (k.step f).1.answered
  issues_iff : ∀ key' id, Issues key' id (k.step f).1 ↔
    key' = key ∧ (∃ s, r = .ok s ∧ s.sessionId = id) ∧ ∃ url form, .post url form ∈ requests

theorem exists_loginStep (hlogin : k.login? = some (key, pw)) (f : Fleet) :
    ∃ m r requests m', LoginStep k key pw f m r requests m' := by
  obtain ⟨m, r, hrun, hm, hm', hevent⟩ := exists_login hlogin f
  have hseen := Manager.login_seen key.serverUrl key.database key.username pw m
  have hreturns := Manager.returnsIssue_login key.serverUrl key.database key.username pw m
  rw [hrun] at hseen hreturns
  refine ⟨m, r.1, _, r.2, hseen, hm, hm'.symm, ?_, ?_, ?_⟩
  · rw [hevent]
  · intro request
    rw [hevent]
    exact Wire.mem_since_iff
  · intro key' id
    rw [issues_step_iff hlogin, hevent]
    exact and_congr_right fun _ => hreturns id

theorem not_issues_of_not_login (hlogin : k.login? = none) (f : Fleet) (key : SessionKey)
    (id : String) : ¬Issues key id (k.step f).1 := by
  rintro ⟨pw, hcall, -⟩
  change k.login? = some (key, pw) at hcall
  rw [hlogin] at hcall
  cases hcall

/-- What is given out is what the logins return that send the password and succeed. -/
theorem issues_iff_succeeds (k : Call) (f : Fleet) (key : SessionKey) (id : String) :
    Issues key id (k.step f).1 ↔ Succeeds key id (k.step f).1 := by
  cases hlogin : k.login? with
  | none =>
    refine iff_of_false (not_issues_of_not_login hlogin f key id) ?_
    rintro ⟨⟨pw, hcall⟩, -, -⟩
    change k.login? = some (key, pw) at hcall
    rw [hlogin] at hcall
    cases hcall
  | some login =>
    obtain ⟨m, r, requests, m', h⟩ := exists_loginStep hlogin f
    rw [h.issues_iff]
    constructor
    · rintro ⟨rfl, ⟨s, rfl, hid⟩, url, form, hmem⟩
      exact ⟨⟨_, hlogin⟩, ⟨s, h.result_eq, hid⟩, url, form, (h.mem_requests _).mp hmem⟩
    · rintro ⟨⟨pw, hcall⟩, ⟨s, hs, hid⟩, url, form, answer, hmem⟩
      change k.login? = some (key, pw) at hcall
      rw [hlogin] at hcall
      cases hcall
      obtain ⟨s', rfl, hs'⟩ := exists_of_map_eq_ok (h.result_eq.symm.trans hs)
      cases hs'
      exact ⟨rfl, ⟨s, rfl, hid⟩, url, form, (h.mem_requests _).mpr ⟨answer, hmem⟩⟩

end Step

section Latest

variable {key : SessionKey} {id : String} {events : List Event} {e : Event}

theorem latest_of_issues (h : Issues key id e) : Latest key id (events ++ [e]) :=
  (since_concat e).mpr (Or.inl h)

theorem Latest.concat (h : Latest key id events) (he : ∀ id', ¬Issues key id' e) :
    Latest key id (events ++ [e]) := by
  apply (since_concat e).mpr
  right
  exact ⟨h, fun ⟨id', h'⟩ => he id' h'⟩

end Latest

/-- What is in the cache is what was given out latest. -/
def Sound (t : Trace Fleet Event) : Prop :=
  ∀ key id, t.state.store.find? key = some id → Latest key id t.events

/-- A login returns the session that was given out latest for its key. -/
def Returns (key : SessionKey) (events : List Event) (e : Event) : Prop :=
  ∀ s, e.result = .ok (some s) → s.key = key ∧ Latest key s.sessionId (events ++ [e])

section Next

variable {t : Trace Fleet Event} {k : Call} {key : SessionKey} {pw : String}

theorem Sound.next_of_within (h : Sound t)
    (hwithin : Within t.state.store (k.step t.state).2.store)
    (hissues : ∀ key id, ¬Issues key id (k.step t.state).1) : Sound (t.next Call.step k) := by
  intro key id hfind
  apply (h key id (hwithin key id hfind)).concat
  exact hissues key

theorem Sound.next_of_not_login (h : Sound t) (hlogin : k.login? = none) :
    Sound (t.next Call.step k) := by
  apply h.next_of_within
  · exact within_of_not_login hlogin t.state
  · exact not_issues_of_not_login hlogin t.state

theorem Sound.next_of_login (h : Sound t) (hlogin : k.login? = some (key, pw)) :
    Sound (t.next Call.step k) ∧ Returns key t.events (k.step t.state).1 := by
  obtain ⟨m, r, requests, m', hstep⟩ := exists_loginStep hlogin t.state
  have hseen := hstep.seen
  cases hseen with
  | failed hended hstore =>
    constructor
    · apply h.next_of_within
      · rw [hstep.store_step, ← hstep.store_eq]
        rcases hstore with hstore | hstore
        · rw [hstore]
          exact refl m.store
        · rw [hstore]
          exact within_remove m.store _
      · intro key' id hissues
        obtain ⟨-, ⟨s, hs, -⟩, -⟩ := (hstep.issues_iff key' id).mp hissues
        cases hs
    · intro s hs
      rw [hstep.result_eq] at hs
      cases hs
  | @resumed s _ _ hended hstore hkey hfind hsent =>
    have hnone : ∀ key' id, ¬Issues key' id (k.step t.state).1 := by
      intro key' id hissues
      obtain ⟨-, -, url, form, hrequest⟩ := (hstep.issues_iff key' id).mp hissues
      exact hsent url form hrequest
    constructor
    · apply h.next_of_within
      · rw [hstep.store_step, ← hstep.store_eq, hstore]
        exact refl m.store
      · exact hnone
    · intro s' hs'
      rw [hstep.result_eq] at hs'
      cases hs'
      rw [hstep.store_eq] at hfind
      exact ⟨hkey, (h key s.sessionId hfind).concat (hnone key)⟩
  | @issued s _ _ url hended hkey hfind hothers hurl hsent =>
    have hissues : Issues key s.sessionId (k.step t.state).1 :=
      (hstep.issues_iff key s.sessionId).mpr ⟨rfl, ⟨s, rfl, rfl⟩, url, _, hsent⟩
    constructor
    -- the key of this login now holds the id just given out, and none is for any other key
    · intro key' id hfind'
      change (k.step t.state).2.store.find? key' = some id at hfind'
      rw [hstep.store_step] at hfind'
      by_cases hne : key' = key
      · subst hne
        obtain rfl : s.sessionId = id := Option.some.inj (hfind.symm.trans hfind')
        exact latest_of_issues hissues
      · rw [hothers key' hne, hstep.store_eq] at hfind'
        apply (h key' id hfind').concat
        intro id' hissues'
        exact hne ((hstep.issues_iff key' id').mp hissues').1
    · intro s' hs'
      rw [hstep.result_eq] at hs'
      cases hs'
      exact ⟨hkey, latest_of_issues hissues⟩

end Next

theorem sound_run (wire : Wire) (calls : List Call) : Sound (Trace.run Call.step { wire } calls) := by
  apply Trace.run_induction
  · intro key id hfind
    cases hfind
  · intro t k h
    cases hlogin : k.login? with
    | none => exact h.next_of_not_login hlogin
    | some login => exact (h.next_of_login hlogin).1

/-- What the calls of a history return and leave in the cache. -/
structure SharesSafely (t : Trace Fleet Event) : Prop where
  /-- A login returns its own session: of its own key, and the latest that was given out for it. -/
  login_latest : ∀ (pre post : List Event) (e : Event) (key : SessionKey) (pw : String)
    (s : Session), t.events = pre ++ e :: post → e.call.login? = some (key, pw) →
    e.result = .ok (some s) → s.key = key ∧ Latest key s.sessionId (pre ++ [e])
  /-- To be given a session is to send the password with success. -/
  issues_iff : ∀ e ∈ t.events, ∀ key id, Issues key id e ↔ Succeeds key id e
  find?_latest : ∀ key id, t.state.store.find? key = some id → Latest key id t.events
  store_eq : ∀ k : Call, k.login? = none → k.isLogout = false →
    (k.step t.state).2.store = t.state.store

/-- Whatever managers and clients with one cache do, and whatever the wire brings them, no login
returns a session that the server did not give out for its key or that it has since replaced. -/
theorem sharesSafely_run (wire : Wire) (calls : List Call) :
    SharesSafely (Trace.run Call.step { wire } calls) := by
  constructor
  · intro pre post e key pw s h hlogin hresult
    obtain ⟨calls', k, rfl, rfl⟩ := Trace.exists_call h
    exact ((sound_run wire calls').next_of_login hlogin).2 s hresult
  · intro e he key id
    obtain ⟨pre, post, h⟩ := List.append_of_mem he
    obtain ⟨calls', k, -, rfl⟩ := Trace.exists_call h
    exact issues_iff_succeeds k _ key id
  · exact sound_run wire calls
  · intro k hlogin hlogout
    have hmoves : Moves Eq k.work := moves_of_quiet hlogin hlogout
    exact (hmoves _).symm

end Fleet

end RemoteSql
