import Mathlib
import RemoteSql.Blob.Upload
import RemoteSql.Proofs.Fallible
import RemoteSql.Proofs.Http.Exchange

/-!
# What an answer settles

Work that makes a request takes the answer in one of a few ways. Whatever else it does, a fault of
the transport is its outcome, a complaint of the server carries the status of the answer, and a
mistake of the caller was found before anything was sent.
-/

namespace RemoteSql

variable {α β : Type}

/-- How work takes the answer to its request. -/
inductive Intake
  /-- The answer is read to its end and has to hold the document of a success. -/
  | document
  /-- Likewise, after a file has been read and sent. -/
  | upload (reader : UploadReader)
  /-- The answer is handed on unread if its status is a success. -/
  | download
  /-- The answer is handed on unread. -/
  | stream

/-- What sending a file brings back. -/
def UploadReader.answerOf (reader : UploadReader) (x : Exchange) : Except Error Reply :=
  match (reader.send x.uploadBuffer x.uploadLimit #[]).2.1 with
  | some fault => .error (.reading fault)
  | none => Wire.replyOf x.answer

namespace Intake

/-- What the call of the transport comes to, the content of the answer apart. -/
def transported (i : Intake) (x : Exchange) : Except Error Unit :=
  match i with
  | document => (Wire.replyOf x.answer).map fun _ => ()
  | upload reader => (reader.answerOf x).map fun _ => ()
  | download | stream => (Wire.responseOf x.answer).map fun _ => ()

/-- Whether the answer is one that lets the work succeed. -/
def Accepts (i : Intake) (x : Exchange) : Prop :=
  match i with
  | document | upload _ =>
    ∃ reply, Wire.replyOf x.answer = .ok reply ∧ (Envelope.ofReply reply).isOk = true
  | download => ∃ response, x.answer = .ok response ∧ response.status.code = 200
  | stream => ∃ response, x.answer = .ok response

end Intake

namespace Error

/-- A fault that neither the caller nor the server is blamed for. -/
def Incidental (e : Error) : Prop := e.kind ≠ .configuration ∧ e.kind ≠ .server

/-- A fault that the server is not blamed for. -/
def Unserved (e : Error) : Prop := e.kind ≠ .server

theorem Incidental.unserved {e : Error} (h : e.Incidental) : e.Unserved := h.2

theorem incidental_protocol (fault : ProtocolFault) : (Error.protocol fault).Incidental := by
  simp [Incidental, kind]

theorem incidental_transport (fault : TransportFault) : (Error.transport fault).Incidental := by
  simp [Incidental, kind]

theorem incidental_localIo (text : String) : (Error.localIo text).Incidental := by
  simp [Incidental, kind]

theorem incidental_cancelled : Error.cancelled.Incidental := by simp [Incidental, kind]

theorem incidental_closed (resource : Resource) : (Error.closed resource).Incidental := by
  simp [Incidental, kind]

theorem unserved_required (input : String) : (Error.required input).Unserved := by
  simp [Unserved, required, kind]

end Error

/-- What the answer to the last request of work says about the outcome; a withdrawn transfer covers
up why it failed. -/
structure Settled (i : Intake) (withdrawn : Bool) (x : Exchange) (r : Except Error α) : Prop where
  configuration : FailsOnly (fun e => e.kind ≠ .configuration) r
  server : FailsOnly (fun e => e.kind = .server →
    ∃ response, x.answer = .ok response ∧ e.httpCode = some response.status.code) r
  transport : ∀ e, i.transported x = .error e → r = .error (if withdrawn then .cancelled else e)
  success : ∀ a, r = .ok a → i.Accepts x

/-- The outcome of work that makes one request at most, and the wire after it. -/
inductive Single (i : Intake) (w : Wire) : Except Error α → Wire → Prop
  | unsent {e : Error} (h : e.Unserved) : Single i w (.error e) w
  | sent {r : Except Error α} (request : Request) (h : Settled i false w.upcoming r) :
    Single i w r (w.after request)

def MakesOne (i : Intake) (x : WireM α) : Prop := ∀ w, Single i w (x.run w).1 (x.run w).2

/-- Work that leaves the wire alone and that nobody is blamed for when it fails. -/
def Quiet (x : WireM α) : Prop := ∀ w, ∃ r, x.run w = (r, w) ∧ FailsOnly Error.Incidental r

section Quiet

theorem quiet_lift {x : Except Error α} (h : FailsOnly Error.Incidental x) :
    Quiet (liftM x : WireM α) := by
  intro w
  cases x with
  | error e => exact ⟨_, rfl, h⟩
  | ok a => exact ⟨_, rfl, h⟩

theorem quiet_pure (a : α) : Quiet (pure a : WireM α) := fun _ => ⟨_, rfl, .ok a⟩

theorem quiet_throw {e : Error} (h : e.Incidental) : Quiet (throw e : WireM α) :=
  fun _ => ⟨_, rfl, .error h⟩

theorem Quiet.bind {x : WireM β} {f : β → WireM α} (hx : Quiet x) (hf : ∀ b, Quiet (f b)) :
    Quiet (x >>= f) := by
  intro w
  obtain ⟨r, hr, hfails⟩ := hx w
  rw [run_bind, hr]
  cases r with
  | error e => exact ⟨_, rfl, .error (hfails e rfl)⟩
  | ok b => exact hf b w

end Quiet

section Settled

variable {i : Intake} {x : Exchange} {withdrawn : Bool}

theorem Settled.map {r : Except Error α} (h : Settled i withdrawn x r) (f : α → β) :
    Settled i withdrawn x (r.map f) := by
  constructor
  · exact h.configuration.map f
  · exact h.server.map f
  · intro e he
    rw [h.transport e he]
    rfl
  · intro b hb
    obtain ⟨a, ha, -⟩ := exists_of_map_eq_ok hb
    exact h.success a ha

/-- What is done with a result afterwards settles nothing anew, if it fails for its own reasons. -/
theorem Settled.bind {r : Except Error α} {f : α → Except Error β} (h : Settled i withdrawn x r)
    (hf : ∀ a, FailsOnly Error.Incidental (f a)) : Settled i withdrawn x (r >>= f) := by
  constructor
  · exact h.configuration.bind fun a => (hf a).imp fun e he => he.1
  · exact h.server.bind fun a => (hf a).imp fun e he hserver => absurd hserver he.2
  · intro e he
    rw [h.transport e he]
    rfl
  · intro b hb
    obtain ⟨a, ha, -⟩ := exists_of_bind_eq_ok hb
    exact h.success a ha

theorem status_of_readReply {response : Response} {reply : Reply}
    (h : response.readReply = .ok reply) : reply.status = response.status := by
  unfold Response.readReply at h
  split at h
  · cases h
    rfl
  · cases h

theorem incidental_of_readReply (response : Response) :
    FailsOnly Error.Incidental response.readReply := by
  unfold Response.readReply
  split
  · exact .ok _
  · exact .error (Error.incidental_transport _)

theorem answer_of_replyOf {answer : Except String Response} {reply : Reply}
    (h : Wire.replyOf answer = .ok reply) :
    ∃ response, answer = .ok response ∧ reply.status = response.status := by
  cases answer with
  | error text => cases h
  | ok response => exact ⟨response, rfl, status_of_readReply h⟩

theorem incidental_of_replyOf (answer : Except String Response) :
    FailsOnly Error.Incidental (Wire.replyOf answer) := by
  intro e he
  obtain ⟨fault, rfl⟩ := Wire.transport_of_replyOf he
  exact Error.incidental_transport fault

theorem incidental_answerOf (reader : UploadReader) (x : Exchange) :
    FailsOnly Error.Incidental (reader.answerOf x) := by
  unfold UploadReader.answerOf
  split
  · exact .error (Error.incidental_transport _)
  · exact incidental_of_replyOf x.answer

theorem replyOf_of_answerOf {reader : UploadReader} {x : Exchange} {reply : Reply}
    (h : reader.answerOf x = .ok reply) : Wire.replyOf x.answer = .ok reply := by
  unfold UploadReader.answerOf at h
  split at h
  · cases h
  · exact h

/-- Work on a reply that is read whole. -/
structure Judges (use : Reply → Except Error α) : Prop where
  configuration : ∀ reply, FailsOnly (fun e => e.kind ≠ .configuration) (use reply)
  server : ∀ reply, FailsOnly
    (fun e => e.kind = .server → e.httpCode = some reply.status.code) (use reply)
  success : ∀ reply a, use reply = .ok a → (Envelope.ofReply reply).isOk = true

theorem settled_document {use : Reply → Except Error α} (h : Judges use) (x : Exchange) :
    Settled .document false x ((Wire.replyOf x.answer).bind use) := by
  constructor
  · exact ((incidental_of_replyOf x.answer).imp fun e he => he.1).bind h.configuration
  · intro e he hserver
    rcases eq_error_or_of_bind_eq_error he with he | ⟨reply, hreply, he⟩
    · exact absurd hserver (incidental_of_replyOf x.answer e he).2
    · obtain ⟨response, hanswer, hstatus⟩ := answer_of_replyOf hreply
      refine ⟨response, hanswer, ?_⟩
      rw [← hstatus]
      exact h.server reply e he hserver
  · intro e he
    obtain he : Wire.replyOf x.answer = .error e := eq_error_of_map_eq_error he
    rw [he]
    rfl
  · intro a ha
    obtain ⟨reply, hreply, ha⟩ := exists_of_bind_eq_ok ha
    exact ⟨reply, hreply, h.success reply a ha⟩

/-- Work on a response that is not read to its end by the transport. -/
structure Admits (i : Intake) (use : Response → Except Error α) : Prop where
  transported : ∀ x : Exchange, i.transported x = (Wire.responseOf x.answer).map fun _ => ()
  configuration : ∀ response, FailsOnly (fun e => e.kind ≠ .configuration) (use response)
  server : ∀ response, FailsOnly
    (fun e => e.kind = .server → e.httpCode = some response.status.code) (use response)
  success : ∀ (x : Exchange) response a, x.answer = .ok response → use response = .ok a →
    i.Accepts x

theorem settled_response {use : Response → Except Error α} (h : Admits i use) (x : Exchange) :
    Settled i false x ((Wire.responseOf x.answer).bind use) := by
  have htransported := h.transported x
  cases hanswer : x.answer with
  | error text =>
    rw [hanswer] at htransported
    constructor
    · exact .error (Error.incidental_transport _).1
    · exact .error fun hserver => absurd hserver (Error.incidental_transport _).2
    · intro e he
      rw [htransported] at he
      cases he
      rfl
    · intro a ha
      cases ha
  | ok response =>
    rw [hanswer] at htransported
    constructor
    · exact h.configuration response
    · intro e he hserver
      exact ⟨response, hanswer, h.server response e he hserver⟩
    · intro e he
      rw [htransported] at he
      cases he
    · intro a ha
      exact h.success x response a hanswer ha

end Settled

/-- Work that goes on after a request without another one adds no blame. -/
theorem Single.bind {i : Intake} {w w' : Wire} {r : Except Error α} {f : α → Except Error β}
    (h : Single i w r w') (hf : ∀ a, FailsOnly Error.Incidental (f a)) :
    Single i w (r >>= f) w' := by
  cases h with
  | unsent h => exact .unsent h
  | sent request h => exact .sent request (h.bind hf)

theorem Single.map {i : Intake} {w w' : Wire} {r : Except Error α} (h : Single i w r w')
    (f : α → β) : Single i w (r.map f) w' := by
  cases h with
  | unsent h => exact .unsent h
  | sent request h => exact .sent request (h.map f)

theorem Single.exists_request {i : Intake} {w w' : Wire} {a : α} (h : Single i w (.ok a) w') :
    ∃ request, w' = w.after request := by
  cases h with
  | sent request h => exact ⟨request, rfl⟩

namespace MakesOne

variable {i : Intake}

theorem of_document {request : Except Error Request} {use : Reply → Except Error α}
    (hrequest : FailsOnly Error.Unserved request) (huse : Judges use) :
    MakesOne .document (Wire.exchange request fun r => r.readReply >>= use) := by
  intro w
  cases request with
  | error e => exact .unsent (hrequest e rfl)
  | ok r =>
    rw [Wire.run_exchange_ok, Wire.responseOf_bind_readReply]
    exact .sent r (settled_document huse w.upcoming)

theorem of_response {request : Except Error Request} {use : Response → Except Error α}
    (hrequest : FailsOnly Error.Unserved request) (huse : Admits i use) :
    MakesOne i (Wire.exchange request use) := by
  intro w
  cases request with
  | error e => exact .unsent (hrequest e rfl)
  | ok r => exact .sent r (settled_response huse w.upcoming)

theorem bind {x : WireM α} {f : α → WireM β} (hx : MakesOne i x) (hf : ∀ a, Quiet (f a)) :
    MakesOne i (x >>= f) := by
  intro w
  have hw := hx w
  cases hr : x.run w with
  | mk r w' =>
    rw [hr] at hw
    -- the work that follows leaves the wire where the request has left it
    choose g hg using fun a => hf a w'
    have hrun : (x >>= f).run w = (r >>= g, w') := by
      rw [run_bind, hr]
      cases r with
      | error e => rfl
      | ok a => exact (hg a).1
    rw [hrun]
    exact hw.bind fun a => (hg a).2

/-- What is settled beforehand may forbid the request. -/
theorem guard {y : Except Error β} {x : β → WireM α} (hy : FailsOnly Error.Unserved y)
    (hx : ∀ b, MakesOne i (x b)) : MakesOne i (liftM y >>= x) := by
  intro w
  cases y with
  | error e => exact .unsent (hy e rfl)
  | ok b => exact hx b w

theorem throw {e : Error} (h : e.Unserved) (f : β → WireM α) :
    MakesOne i (MonadExcept.throw e >>= f) := fun _ => .unsent h

theorem discard {x : WireM α} (hx : MakesOne i x) : MakesOne i (Functor.discard x) := by
  intro w
  have hw := hx w
  have hrun : (Functor.discard x).run w = ((x.run w).1.map fun _ => (), (x.run w).2) :=
    run_map (fun _ => ()) x w
  rw [hrun]
  exact hw.map _

end MakesOne

end RemoteSql
