import Mathlib
import RemoteSql.Http.Action

/-!
# Work that is one request

Most work on the wire makes a single request, or none because there is a reason not to. Such work is
known from the request and from what is made of the response: what it changes on the wire is seen
from the request alone.
-/

namespace RemoteSql

section Run

variable {σ α β : Type}

theorem run_bind (x : ExceptT Error (StateM σ) β) (f : β → ExceptT Error (StateM σ) α) (s : σ) :
    (x >>= f).run s = match x.run s with
      | (.ok b, s') => (f b).run s'
      | (.error e, s') => (.error e, s') := by
  change (match x.run s with | (r, s') => ExceptT.bindCont f r s') = _
  obtain ⟨r | r, s'⟩ := x.run s <;> rfl

theorem run_map (f : β → α) (x : ExceptT Error (StateM σ) β) (s : σ) :
    (f <$> x).run s = ((x.run s).1.map f, (x.run s).2) := by
  rw [map_eq_pure_bind, run_bind]
  obtain ⟨r | r, s'⟩ := x.run s <;> rfl

theorem run_tryCatch (x : ExceptT Error (StateM σ) α) (f : Error → ExceptT Error (StateM σ) α)
    (s : σ) :
    (tryCatch x f).run s = match x.run s with
      | (.ok a, s') => (.ok a, s')
      | (.error e, s') => (f e).run s' := by
  simp only [tryCatch, tryCatchThe, MonadExceptOf.tryCatch, ExceptT.tryCatch, ExceptT.mk,
    ExceptT.run, bind, StateT.bind]
  obtain ⟨r | r, s'⟩ := x s <;> rfl

end Run

namespace Wire

variable {α β : Type}

theorem after_ne (w : Wire) (r : Request) : w.after r ≠ w := by
  intro h
  have hsent : w.sent ++ [r] = w.sent := congrArg Wire.sent h
  simp at hsent

/-- How the wire answers the request that comes after `n` others. -/
def nth (w : Wire) (n : Nat) : Exchange := w.exchanges[n]?.getD { answer := .error w.silence }

theorem nth_zero (w : Wire) : w.nth 0 = w.upcoming := by
  unfold nth upcoming
  cases w.exchanges <;> rfl

theorem nth_succ (w : Wire) (r : Request) (n : Nat) : w.nth (n + 1) = (w.after r).nth n := by
  simp [nth, after]

/-- Makes a request, if there is one to make, and uses the response. -/
def exchange (request : Except Error Request) (use : Response → Except Error α) : WireM α :=
  fun w =>
    match request with
    | .error e => (.error e, w)
    | .ok r => ((responseOf w.upcoming.answer).bind use, w.after r)

theorem run_exchange_error (e : Error) (use : Response → Except Error α) (w : Wire) :
    (exchange (.error e) use).run w = (.error e, w) := rfl

theorem run_exchange_ok (r : Request) (use : Response → Except Error α) (w : Wire) :
    (exchange (.ok r) use).run w = ((responseOf w.upcoming.answer).bind use, w.after r) := rfl

theorem get_eq_exchange (url : String) : get url = exchange (.ok (.get url)) Response.readReply :=
  rfl

theorem postStream_eq_exchange (url : String) (form : Form) :
    postStream url form = exchange (.ok (.post url form)) .ok := by
  funext w
  unfold postStream exchange
  cases responseOf w.upcoming.answer <;> rfl

/-- What is settled before a request is settled in the request. -/
theorem lift_bind_exchange (x : Except Error β) (request : β → Except Error Request)
    (use : Response → Except Error α) :
    (liftM x >>= fun b => exchange (request b) use : WireM α) = exchange (x >>= request) use := by
  cases x <;> rfl

/-- What is made of the outcome of a request is made of the response. -/
theorem exchange_bind_lift (request : Except Error Request) (use : Response → Except Error β)
    (f : β → Except Error α) :
    (exchange request use >>= fun b => liftM (f b) : WireM α) =
      exchange request fun r => use r >>= f := by
  funext w
  refine (run_bind (exchange request use) (fun b => liftM (f b)) w).trans ?_
  cases request with
  | error e => rfl
  | ok r =>
    change _ = ((responseOf w.upcoming.answer).bind fun response => use response >>= f, w.after r)
    rw [run_exchange_ok]
    cases responseOf w.upcoming.answer with
    | error e => rfl
    | ok response =>
      simp only [Except.bind]
      cases use response <;> rfl

theorem post_eq_exchange (url : String) (form : Form) :
    post url form = exchange (.ok (.post url form)) Response.readReply := by
  rw [post, postStream_eq_exchange, exchange_bind_lift]
  rfl

theorem responseOf_bind_readReply (answer : Except String Response) (use : Reply → Except Error α) :
    (responseOf answer).bind (fun r => r.readReply >>= use) = (replyOf answer).bind use := by
  unfold replyOf
  cases responseOf answer <;> rfl

/-- A whole reply is missed only for a fault of the transport. -/
theorem transport_of_replyOf {answer : Except String Response} {e : Error}
    (h : replyOf answer = .error e) : ∃ fault, e = .transport fault := by
  unfold replyOf responseOf at h
  cases answer with
  | error text =>
    cases h
    exact ⟨_, rfl⟩
  | ok response =>
    change response.readReply = .error e at h
    unfold Response.readReply at h
    split at h
    · cases h
    · cases h
      exact ⟨_, rfl⟩

end Wire

namespace Reply

theorem document_of_isOk {r : Reply} (h : (Envelope.ofReply r).isOk = true) :
    r.document = .ok (Envelope.ofReply r) := by
  simp only [document, Envelope.toExcept]
  unfold Envelope.isOk at h
  cases hv : (Envelope.ofReply r).verdict with
  | success document => rfl
  | failure detail => simp [hv] at h

end Reply

namespace Session

theorem getAction_eq_exchange (s : Session) (action : String) (param : Option String) :
    s.getAction action param =
      Wire.exchange (s.actionUrl action param >>= fun url => .ok (.get url))
        fun r => r.readReply >>= Reply.document := by
  unfold getAction
  simp only [Wire.get_eq_exchange, Wire.exchange_bind_lift, Wire.lift_bind_exchange]

theorem run_getAction_error {s : Session} {action : String} {param : Option String} {e : Error}
    (h : s.actionUrl action param = .error e) (w : Wire) :
    (s.getAction action param).run w = (.error e, w) := by
  rw [getAction_eq_exchange, h]
  exact Wire.run_exchange_error e _ w

theorem run_getAction_ok {s : Session} {action url : String} {param : Option String}
    (h : s.actionUrl action param = .ok url) (w : Wire) :
    (s.getAction action param).run w =
      ((Wire.replyOf w.upcoming.answer).bind Reply.document, w.after (.get url)) := by
  have hrequest : (s.actionUrl action param >>= fun url => .ok (.get url)) =
      .ok (Request.get url) := by
    rw [h]
    rfl
  rw [getAction_eq_exchange, hrequest, Wire.run_exchange_ok, Wire.responseOf_bind_readReply]

end Session

end RemoteSql
