import Mathlib
import RemoteSql.Proofs.Connection.Operation
import RemoteSql.Proofs.Session.History

/-!
# The life of a connection

A connection is open until it is closed or logged out for the first time, and what the server said
to that makes no difference. From then on it refuses all work, and being closed or logged out again
costs no request; only the first logout of a connection that was merely closed still reaches its
manager. The manager is shared, so anything may become of it between two calls.
-/

namespace RemoteSql.Connection

theorem run_discard {σ α : Type} (x : ExceptT Error (StateM σ) α) (s : σ) :
    (discard x).run s = ((x.run s).1.map fun _ => (), (x.run s).2) :=
  run_map (fun _ => ()) x s

theorem run_discard_of_error {α : Type} {x : WireM α} {w : Wire} {e : Error}
    (h : x.run w = (.error e, w)) : (discard x).run w = (.error e, w) := by
  rw [run_discard, h]
  rfl

section Closed

variable {c : Connection} (h : c.isClosed = true)

include h

theorem ensureOpen_of_closed : c.ensureOpen = .error (.closed .connection) := if_pos h

/-- Work that first asks whether the connection is open does nothing else. -/
theorem run_guarded_of_closed {α : Type} (f : Unit → WireM α) (w : Wire) :
    (liftM c.ensureOpen >>= f : WireM α).run w = (.error (.closed .connection), w) := by
  rw [ensureOpen_of_closed h]
  rfl

theorem run_run_of_closed (action : String) (param : Option String) (w : Wire) :
    (c.run action param).run w = (.error (.closed .connection), w) :=
  run_guarded_of_closed h _ w

theorem run_ask_of_closed (action : String) (param : Option String) (w : Wire) :
    (c.ask action param).run w = (.error (.closed .connection), w) :=
  run_guarded_of_closed h _ w

theorem run_ask_bind_of_closed {α : Type} (action : String) (param : Option String)
    (f : String → WireM α) (w : Wire) :
    (c.ask action param >>= f).run w = (.error (.closed .connection), w) := by
  rw [run_bind, run_ask_of_closed h]

theorem run_whileOpen_of_closed {α : Type} (work : Session → WireM α) (w : Wire) :
    (c.whileOpen work).run w = (.error (.closed .connection), w) :=
  run_guarded_of_closed h _ w

theorem run_executeQuery_of_closed (s : Statement) (w : Wire) :
    (c.executeQuery s).run w = (.error (.closed .connection), w) :=
  run_guarded_of_closed h _ w

theorem run_duplicate_of_closed (w : Wire) :
    c.duplicate.run w = (.error (.closed .connection), w) :=
  run_guarded_of_closed h _ w

theorem run_work_of_closed (o : Operation) (w : Wire) :
    (o.work c).run w = (.error (.closed .connection), w) := by
  cases o with
  | run action param => exact run_run_of_closed h action param w
  | commit | rollback | setAutoCommit on | setReadOnly on | setHoldability level
  | setIsolation level => exact run_run_of_closed h _ _ w
  | ask action param => exact run_discard_of_error (run_ask_of_closed h action param w)
  | serverVersion => exact run_discard_of_error (run_ask_of_closed h _ _ w)
  | autoCommit | isReadOnly | holdability | isolation =>
    exact run_discard_of_error (run_ask_bind_of_closed h _ _ _ w)
  | executeUpdate s slots => exact run_discard_of_error (run_guarded_of_closed h _ w)
  | executeQuery s => exact run_discard_of_error (run_executeQuery_of_closed h s w)
  | queryCursor s =>
    apply run_discard_of_error
    unfold queryCursor
    rw [run_bind, run_executeQuery_of_closed h]
  | download blobId | blobLength blobId | databaseMetadata | tableNames tableType
  | table tableName | schema format tableName =>
    exact run_discard_of_error (run_whileOpen_of_closed h _ w)
  | downloadTo blobId copy =>
    change (((c.downloadTo blobId copy w).1.map fun _ => ()), (c.downloadTo blobId copy w).2.2) = _
    rw [downloadTo, ensureOpen_of_closed h]
    rfl
  | upload blobId length reader =>
    change ((c.upload blobId length reader w).result, (c.upload blobId length reader w).wire) = _
    rw [upload, ensureOpen_of_closed h]
  | schemaTo format tableName sink =>
    change (((c.schemaTo format tableName sink w).1.map fun _ => ()),
      (c.schemaTo format tableName sink w).2.2) = _
    rw [schemaTo, ensureOpen_of_closed h]
    rfl

end Closed

/-- A connection in use, with the manager that it was opened through. -/
structure Use where
  connection : Connection
  manager : Manager

inductive Call
  | operate (o : Operation)
  | duplicate
  | close
  | logout
  /-- Whatever others make of the manager. -/
  | elsewhere (change : Manager → Manager)

namespace Call

def work (c : Connection) : Call → Connection × ManagerM (Option Session)
  | operate o => (c, (fun _ => none) <$> Manager.onWire (o.work c))
  | duplicate => (c, (fun c' => some c'.session) <$> Manager.onWire c.duplicate)
  | close => (c.close.1, (fun _ => none) <$> Manager.onWire c.close.2)
  | logout => (c.logout.1, (fun _ => none) <$> c.logout.2)
  | elsewhere change => (c, (fun _ => none) <$> modify change)

/-- Makes a call. -/
def step (k : Call) (u : Use) : Event Call × Use :=
  let (connection, work) := k.work u.connection
  let (result, manager) := work.run u.manager
  (⟨k, result, u.manager.wire.since manager.wire⟩, { connection, manager })

/-- Work that only an open connection does. -/
def IsWork : Call → Prop
  | operate _ | duplicate => True
  | close | logout | elsewhere _ => False

def IsEnd : Call → Prop
  | close | logout => True
  | operate _ | duplicate | elsewhere _ => False

end Call

abbrev History := Trace Use (Event Call)

/-- Some call has closed the connection or logged it out. -/
def Ended (events : List (Event Call)) : Prop := ∃ e ∈ events, e.call.IsEnd

def LoggedOut (events : List (Event Call)) : Prop := ∃ e ∈ events, e.call = .logout

/-- The requests made by closing. -/
def closings (events : List (Event Call)) : List Request :=
  events.flatMap fun e => match e.call with
    | .close => e.requests
    | _ => []

/-- The requests made by logging out. -/
def logouts (events : List (Event Call)) : List Request :=
  events.flatMap fun e => match e.call with
    | .logout => e.requests
    | _ => []

section Step

variable {c : Connection} {m : Manager}

theorem step_of_work {k : Call} {c' : Connection} {work : ManagerM (Option Session)}
    {r : Except Error (Option Session)} {m' : Manager} (hwork : k.work c = (c', work))
    (hrun : work.run m = (r, m')) :
    k.step ⟨c, m⟩ = (⟨k, r, m.wire.since m'.wire⟩, ⟨c', m'⟩) := by
  simp only [Call.step, hwork, hrun]

/-- A call that leaves all as it is makes no request. -/
theorem step_of_idle {k : Call} {work : ManagerM (Option Session)}
    {r : Except Error (Option Session)} (hwork : k.work c = (c, work))
    (hrun : work.run m = (r, m)) : k.step ⟨c, m⟩ = (⟨k, r, []⟩, ⟨c, m⟩) := by
  rw [step_of_work hwork hrun, Wire.since_self]

theorem step_of_closed (h : c.isClosed = true) {k : Call} (hk : k.IsWork) :
    k.step ⟨c, m⟩ = (⟨k, .error (.closed .connection), []⟩, ⟨c, m⟩) := by
  cases k with
  | operate o =>
    apply step_of_idle rfl
    rw [run_map, Manager.run_onWire, run_work_of_closed h]
    rfl
  | duplicate =>
    apply step_of_idle rfl
    rw [run_map, Manager.run_onWire, run_duplicate_of_closed h]
    rfl
  | close | logout | elsewhere => exact hk.elim

theorem step_close_of_closed (h : c.isClosed = true) :
    Call.close.step ⟨c, m⟩ = (⟨.close, .ok none, []⟩, ⟨c, m⟩) := by
  have hclose : c.close = (c, pure ()) := if_pos h
  have hwork : Call.close.work c = (c, (fun _ => none) <$> Manager.onWire (pure ())) := by
    rw [Call.work, hclose]
  exact step_of_idle hwork rfl

/-- The first time, a connection is closed with one request. -/
theorem step_close_of_open (h : ¬c.isClosed = true) :
    Call.close.step ⟨c, m⟩ =
      (⟨.close, ((c.session.getAction "close" none).run m.wire).1.map fun _ => none,
        m.wire.since ((c.session.getAction "close" none).run m.wire).2⟩,
        ⟨{ c with state := .closed },
          { m with wire := ((c.session.getAction "close" none).run m.wire).2 }⟩) := by
  have hclose : c.close = ({ c with state := .closed },
      do let _ ← c.session.getAction "close" none) := if_neg h
  have hwork : Call.close.work c = ({ c with state := .closed },
      (fun _ => none) <$> Manager.onWire do let _ ← c.session.getAction "close" none) := by
    rw [Call.work, hclose]
  have hrun : ((fun _ => none) <$> Manager.onWire do
      let _ ← c.session.getAction "close" none : ManagerM (Option Session)).run m =
      (((c.session.getAction "close" none).run m.wire).1.map fun _ => none,
        { m with wire := ((c.session.getAction "close" none).run m.wire).2 }) := by
    rw [run_map, Manager.run_onWire, run_bind]
    obtain ⟨e | envelope, w⟩ := (c.session.getAction "close" none).run m.wire
    · rfl
    · rfl
  exact step_of_work hwork hrun

theorem step_logout_of_loggedOut (h : c.state = .loggedOut) :
    Call.logout.step ⟨c, m⟩ = (⟨.logout, .ok none, []⟩, ⟨c, m⟩) := by
  have hlogout : c.logout = (c, pure ()) := if_pos h
  have hwork : Call.logout.work c = (c, (fun _ => none) <$> pure ()) := by
    rw [Call.work, hlogout]
  exact step_of_idle hwork rfl

/-- A connection that was not logged out before leaves its logout to the manager. -/
theorem step_logout_of_ne (h : c.state ≠ .loggedOut) :
    Call.logout.step ⟨c, m⟩ =
      (⟨.logout, ((Manager.logout c.session).run m).1.map fun _ => none,
        m.wire.since ((Manager.logout c.session).run m).2.wire⟩,
        ⟨{ c with state := .loggedOut }, ((Manager.logout c.session).run m).2⟩) := by
  have hlogout : c.logout = ({ c with state := .loggedOut }, Manager.logout c.session) := if_neg h
  have hwork : Call.logout.work c =
      ({ c with state := .loggedOut }, (fun _ => none) <$> Manager.logout c.session) := by
    rw [Call.work, hlogout]
  apply step_of_work hwork
  rw [run_map]

theorem not_isClosed_iff : ¬c.isClosed = true ↔ c.state = .open := by
  unfold isClosed
  cases c.state <;> decide

end Step

/-- At most the one request for an action of a session. -/
def Once (s : Session) (action : String) (requests : List Request) : Prop :=
  requests = [] ∨ ∃ url, s.actionUrl action none = .ok url ∧ requests = [.get url]

theorem once_since_getAction (s : Session) (action : String) (w : Wire) :
    Once s action (w.since ((s.getAction action none).run w).2) := by
  cases hurl : s.actionUrl action none with
  | error e =>
    rw [Session.run_getAction_error hurl, Wire.since_self]
    exact Or.inl rfl
  | ok url =>
    rw [Session.run_getAction_ok hurl]
    exact Or.inr ⟨url, hurl, Wire.since_of_sent rfl⟩

theorem once_since_logout (s : Session) (m : Manager) :
    Once s "logout" (m.wire.since ((Manager.logout s).run m).2.wire) := by
  have hseen := Manager.logout_seen s m
  generalize ((Manager.logout s).run m).1 = r, ((Manager.logout s).run m).2 = m' at hseen ⊢
  generalize m.wire.since m'.wire = requests at hseen ⊢
  cases hseen with
  | ended hmark | unsent hmark hurl => exact Or.inl rfl
  | sent _ hmark hurl => exact Or.inr ⟨_, hurl, rfl⟩

/-- What the state of a connection tells of its past, and what all its past has kept. -/
structure Recorded (s : Session) (options : ConnectionOptions) (t : History) : Prop where
  session_eq : t.state.connection.session = s
  options_eq : t.state.connection.options = options
  open_iff : t.state.connection.state = .open ↔ ¬Ended t.events
  loggedOut_iff : t.state.connection.state = .loggedOut ↔ LoggedOut t.events
  closings_once : Once s "close" (closings t.events)
  closings_of_open : t.state.connection.state = .open → closings t.events = []
  logouts_once : Once s "logout" (logouts t.events)
  logouts_of_ne : t.state.connection.state ≠ .loggedOut → logouts t.events = []

section Concat

variable (events : List (Event Call)) (k : Call) (r : Except Error (Option Session))
  (requests : List Request)

theorem ended_concat : Ended (events ++ [⟨k, r, requests⟩]) ↔ Ended events ∨ k.IsEnd := by
  simp [Ended, or_and_right, exists_or]

theorem loggedOut_concat :
    LoggedOut (events ++ [⟨k, r, requests⟩]) ↔ LoggedOut events ∨ k = .logout := by
  simp [LoggedOut, or_and_right, exists_or]

theorem closings_concat_close :
    closings (events ++ [⟨.close, r, requests⟩]) = closings events ++ requests := by
  simp [closings]

theorem logouts_concat_logout :
    logouts (events ++ [⟨.logout, r, requests⟩]) = logouts events ++ requests := by
  simp [logouts]

variable {k}

theorem closings_concat_of_ne (h : k ≠ .close) :
    closings (events ++ [⟨k, r, requests⟩]) = closings events := by
  cases k <;> simp_all [closings]

theorem logouts_concat_of_ne (h : k ≠ .logout) :
    logouts (events ++ [⟨k, r, requests⟩]) = logouts events := by
  cases k <;> simp_all [logouts]

end Concat

namespace Recorded

variable {s : Session} {options : ConnectionOptions} {t : History}

/-- A call that neither closes the connection nor logs it out leaves it as it is. -/
theorem next_of_not_isEnd (h : Recorded s options t) {k : Call} (hk : ¬k.IsEnd) :
    Recorded s options (t.next Call.step k) := by
  have hclose : k ≠ .close := by
    rintro rfl
    exact hk trivial
  have hlogout : k ≠ .logout := by
    rintro rfl
    exact hk trivial
  obtain ⟨r, requests, m', hstep⟩ :
      ∃ r requests m', k.step t.state = (⟨k, r, requests⟩, ⟨t.state.connection, m'⟩) := by
    cases k with
    | operate o | duplicate | elsewhere change => exact ⟨_, _, _, rfl⟩
    | close | logout => exact absurd trivial hk
  rw [Trace.next_of_step hstep]
  exact {
    session_eq := h.session_eq
    options_eq := h.options_eq
    open_iff := by simpa [ended_concat, hk] using h.open_iff
    loggedOut_iff := by simpa [loggedOut_concat, hlogout] using h.loggedOut_iff
    closings_once := by simpa [closings_concat_of_ne, hclose] using h.closings_once
    closings_of_open := by simpa [closings_concat_of_ne, hclose] using h.closings_of_open
    logouts_once := by simpa [logouts_concat_of_ne, hlogout] using h.logouts_once
    logouts_of_ne := by simpa [logouts_concat_of_ne, hlogout] using h.logouts_of_ne }

theorem next_close (h : Recorded s options t) :
    Recorded s options (t.next Call.step .close) := by
  have hend : Call.close.IsEnd := trivial
  by_cases hclosed : t.state.connection.isClosed = true
  · have hopen : t.state.connection.state ≠ .open := by
      rwa [ne_eq, ← not_isClosed_iff, not_not]
    rw [Trace.next_of_step (step_close_of_closed hclosed)]
    exact {
      session_eq := h.session_eq
      options_eq := h.options_eq
      open_iff := by simp [ended_concat, hend, hopen]
      loggedOut_iff := by simpa [loggedOut_concat] using h.loggedOut_iff
      closings_once := by simpa [closings_concat_close] using h.closings_once
      closings_of_open := fun h' => absurd h' hopen
      logouts_once := by simpa [logouts_concat_of_ne] using h.logouts_once
      logouts_of_ne := by simpa [logouts_concat_of_ne] using h.logouts_of_ne }
  · have hopen : t.state.connection.state = .open := not_isClosed_iff.mp hclosed
    have hlogout : ¬LoggedOut t.events := by
      rw [← h.loggedOut_iff, hopen]
      simp
    have hsent := once_since_getAction t.state.connection.session "close" t.state.manager.wire
    rw [Trace.next_of_step (step_close_of_open hclosed)]
    exact {
      session_eq := h.session_eq
      options_eq := h.options_eq
      open_iff := by simp [ended_concat, hend]
      loggedOut_iff := by simp [loggedOut_concat, hlogout]
      closings_once := by
        rw [closings_concat_close, h.closings_of_open hopen, List.nil_append, ← h.session_eq]
        exact hsent
      closings_of_open := by simp
      logouts_once := by simpa [logouts_concat_of_ne] using h.logouts_once
      logouts_of_ne := fun _ => by
        rw [logouts_concat_of_ne _ _ _ (by simp)]
        exact h.logouts_of_ne (by simp [hopen]) }

theorem next_logout (h : Recorded s options t) :
    Recorded s options (t.next Call.step .logout) := by
  have hend : Call.logout.IsEnd := trivial
  by_cases hout : t.state.connection.state = .loggedOut
  · rw [Trace.next_of_step (step_logout_of_loggedOut hout)]
    exact {
      session_eq := h.session_eq
      options_eq := h.options_eq
      open_iff := by simp [ended_concat, hend, hout]
      loggedOut_iff := by simp [loggedOut_concat, hout]
      closings_once := by simpa [closings_concat_of_ne] using h.closings_once
      closings_of_open := by simp [hout]
      logouts_once := by simpa [logouts_concat_logout] using h.logouts_once
      logouts_of_ne := fun h' => absurd hout h' }
  · have hsent := once_since_logout t.state.connection.session t.state.manager
    rw [Trace.next_of_step (step_logout_of_ne hout)]
    exact {
      session_eq := h.session_eq
      options_eq := h.options_eq
      open_iff := by simp [ended_concat, hend]
      loggedOut_iff := by simp [loggedOut_concat]
      closings_once := by simpa [closings_concat_of_ne] using h.closings_once
      closings_of_open := by simp
      logouts_once := by
        rw [logouts_concat_logout, h.logouts_of_ne hout, List.nil_append, ← h.session_eq]
        exact hsent
      logouts_of_ne := by simp }

theorem next (h : Recorded s options t) (k : Call) : Recorded s options (t.next Call.step k) := by
  cases k with
  | operate o | duplicate | elsewhere change => exact h.next_of_not_isEnd id
  | close => exact h.next_close
  | logout => exact h.next_logout

theorem isClosed_of_ended (h : Recorded s options t) (hended : Ended t.events) :
    t.state.connection.isClosed = true := by
  by_contra hclosed
  exact h.open_iff.mp (not_isClosed_iff.mp hclosed) hended

end Recorded

theorem recorded_run (s : Session) (options : ConnectionOptions) (m : Manager)
    (calls : List Call) :
    Recorded s options (Trace.run Call.step ⟨{ session := s, options }, m⟩ calls) := by
  apply Trace.run_induction
  · exact {
      session_eq := rfl
      options_eq := rfl
      open_iff := by simp [Ended]
      loggedOut_iff := by simp [LoggedOut]
      closings_once := Or.inl rfl
      closings_of_open := fun _ => rfl
      logouts_once := Or.inl rfl
      logouts_of_ne := fun _ => rfl }
  · intro t k h
    exact h.next k

/-- How a connection lives, as seen wherever its calls have led. -/
structure Lifecycle (s : Session) (options : ConnectionOptions) (t : History) : Prop where
  session_eq : t.state.connection.session = s
  options_eq : t.state.connection.options = options
  closings_once : Once s "close" (closings t.events)
  logouts_once : Once s "logout" (logouts t.events)
  /-- Work asked for after the end is refused, and no request is made. -/
  refused : Ended t.events → ∀ k : Call, k.IsWork →
    k.step t.state = (⟨k, .error (.closed .connection), []⟩, t.state)
  close_again : Ended t.events → Call.close.step t.state = (⟨.close, .ok none, []⟩, t.state)
  logout_again : LoggedOut t.events → Call.logout.step t.state = (⟨.logout, .ok none, []⟩, t.state)
  close_first : ¬Ended t.events →
    let (r, wire) := (s.getAction "close" none).run t.state.manager.wire
    Call.close.step t.state =
      (⟨.close, r.map fun _ => none, t.state.manager.wire.since wire⟩,
        ⟨{ session := s, options, state := .closed }, { t.state.manager with wire }⟩)
  /-- Closing does not stand in for logging out. -/
  logout_first : ¬LoggedOut t.events →
    let (r, manager) := (Manager.logout s).run t.state.manager
    Call.logout.step t.state =
      (⟨.logout, r.map fun _ => none, t.state.manager.wire.since manager.wire⟩,
        ⟨{ session := s, options, state := .loggedOut }, manager⟩)

/-- Whatever is asked of a connection, in whatever order and with whatever answers: it is closed
with at most one request and logged out with at most one, and once it has ended it stays so. -/
theorem lifecycle_run (s : Session) (options : ConnectionOptions) (m : Manager)
    (calls : List Call) :
    Lifecycle s options (Trace.run Call.step ⟨{ session := s, options }, m⟩ calls) := by
  have h := recorded_run s options m calls
  generalize Trace.run Call.step ⟨{ session := s, options }, m⟩ calls = t at h
  obtain ⟨⟨c, m⟩, events⟩ := t
  constructor
  · exact h.session_eq
  · exact h.options_eq
  · exact h.closings_once
  · exact h.logouts_once
  · intro hended k hk
    exact step_of_closed (h.isClosed_of_ended hended) hk
  · intro hended
    exact step_close_of_closed (h.isClosed_of_ended hended)
  · intro hout
    exact step_logout_of_loggedOut (h.loggedOut_iff.mpr hout)
  · intro hended
    have hopen : ¬c.isClosed = true := not_isClosed_iff.mpr (h.open_iff.mpr hended)
    obtain rfl : c.session = s := h.session_eq
    obtain rfl : c.options = options := h.options_eq
    exact step_close_of_open hopen
  · intro hout
    have hne : c.state ≠ .loggedOut := fun h' => hout (h.loggedOut_iff.mp h')
    obtain rfl : c.session = s := h.session_eq
    obtain rfl : c.options = options := h.options_eq
    exact step_logout_of_ne hne

end RemoteSql.Connection
