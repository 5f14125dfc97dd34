import Mathlib
import RemoteSql.Blob.Download
import RemoteSql.Metadata.Queries
import RemoteSql.Proofs.Http.Answer
import RemoteSql.Proofs.Session.Fallback

/-!
# Whom the errors of a session blame

The requests of a session, each with its way of taking the answer: a server is blamed only by an
answer of its own, with the status of that answer, and a caller only before there is a request.
-/

namespace RemoteSql

variable {α β : Type}

theorem unserved_serverPath (base : String) (segments : List String) :
    FailsOnly Error.Unserved (serverPath base segments) := by
  unfold serverPath
  split
  · exact .error (Error.incidental_transport _).unserved
  · split
    · exact .ok _
    · exact .error (by simp [Error.Unserved, Error.kind])

theorem unserved_require (name value : String) : FailsOnly Error.Unserved (require name value) := by
  unfold require
  split
  · exact .error (Error.unserved_required name)
  · exact .ok _

theorem incidental_requiredField (envelope : Envelope) (field : String) :
    FailsOnly Error.Incidental (envelope.requiredField field) := by
  unfold Envelope.requiredField
  split
  · exact .ok _
  · exact .error (Error.incidental_protocol _)

namespace Envelope

theorem http_ofDocument (document : Json.Members) (http : HttpStatus) :
    (ofDocument document http).http = http := by
  unfold ofDocument
  split <;> rfl

theorem http_ofReply (r : Reply) : (ofReply r).http = r.status := by
  unfold ofReply decode
  split
  · rfl
  · exact http_ofDocument _ _

/-- An envelope that is no success is the server's complaint, with the status that it came with. -/
theorem toExcept_error {e : Envelope} {error : Error} (h : e.toExcept = .error error) :
    error.kind = .server ∧ error.httpCode = some e.http.code := by
  unfold toExcept at h
  split at h
  · cases h
  · cases h
    exact ⟨rfl, rfl⟩

theorem isOk_of_toExcept {e : Envelope} {document : Json.Members} (h : e.toExcept = .ok document) :
    e.isOk = true := by
  unfold toExcept at h
  unfold isOk
  cases hv : e.verdict with
  | success _ => rfl
  | failure detail => simp [hv] at h

end Envelope

theorem Judges.bind {use : Reply → Except Error α} {f : α → Except Error β} (h : Judges use)
    (hf : ∀ a, FailsOnly Error.Incidental (f a)) : Judges fun reply => use reply >>= f := by
  constructor
  · intro reply
    exact (h.configuration reply).bind fun a => (hf a).imp fun e he => he.1
  · intro reply
    exact (h.server reply).bind fun a => (hf a).imp fun e he hserver => absurd hserver he.2
  · intro reply b hb
    obtain ⟨a, ha, -⟩ := exists_of_bind_eq_ok hb
    exact h.success reply a ha

theorem Reply.document_eq (r : Reply) :
    r.document = (Envelope.ofReply r).toExcept.map fun _ => Envelope.ofReply r := rfl

theorem judges_document : Judges Reply.document := by
  constructor
  · intro reply e he
    rw [Reply.document_eq] at he
    obtain ⟨hkind, -⟩ := Envelope.toExcept_error (eq_error_of_map_eq_error he)
    simp [hkind]
  · intro reply e he _
    rw [Reply.document_eq] at he
    obtain ⟨-, hcode⟩ := Envelope.toExcept_error (eq_error_of_map_eq_error he)
    rw [hcode, Envelope.http_ofReply]
  · intro reply envelope he
    rw [Reply.document_eq] at he
    obtain ⟨document, hdocument, -⟩ := exists_of_map_eq_ok he
    exact Envelope.isOk_of_toExcept hdocument

namespace Session

theorem unserved_actionUrl (s : Session) (action : String) (param : Option String) :
    FailsOnly Error.Unserved (s.actionUrl action param) :=
  unserved_serverPath _ _

theorem unserved_actionRequest (s : Session) (action : String) (param : Option String)
    (request : String → Request) :
    FailsOnly Error.Unserved (s.actionUrl action param >>= fun url => .ok (request url)) :=
  (s.unserved_actionUrl action param).bind fun _ => .ok _

theorem makesOne_getAction (s : Session) (action : String) (param : Option String) :
    MakesOne .document (s.getAction action param) := by
  rw [getAction_eq_exchange]
  exact .of_document (s.unserved_actionRequest action param .get) judges_document

theorem postAction_eq_exchange (s : Session) (action : String) (form : Form) :
    s.postAction action form =
      Wire.exchange (s.actionUrl action none >>= fun url => .ok (.post url form))
        fun r => r.readReply >>= Reply.document := by
  unfold postAction
  simp only [Wire.post_eq_exchange, Wire.exchange_bind_lift, Wire.lift_bind_exchange]

theorem makesOne_postAction (s : Session) (action : String) (form : Form) :
    MakesOne .document (s.postAction action form) := by
  rw [postAction_eq_exchange]
  exact .of_document (s.unserved_actionRequest action none (.post · form)) judges_document

/-- What a download makes of the response. -/
def admitted (r : Response) : Except Error Source :=
  if r.isSuccess then .ok r.body else r.readReply >>= fun reply => .error (Envelope.failureOf reply)

theorem fetch_eq_exchange (s : Session) (action : String) (form : Form) :
    s.fetch action form =
      Wire.exchange (s.actionUrl action none >>= fun url => .ok (.post url form)) admitted := by
  have hadmitted : ∀ r : Response, (do
      if r.isSuccess then return r.body
      let reply ← r.readReply
      throw (Envelope.failureOf reply) : WireM Source) = liftM (admitted r) := by
    intro r
    unfold admitted
    split
    · rfl
    · cases r.readReply <;> rfl
  unfold fetch
  simp only [hadmitted, Wire.postStream_eq_exchange, Wire.exchange_bind_lift,
    Wire.lift_bind_exchange]
  rfl

theorem admits_admitted : Admits .download admitted := by
  constructor
  · intro x
    rfl
  · intro r
    unfold admitted
    split
    · exact .ok _
    · refine ((incidental_of_readReply r).imp fun e he => he.1).bind fun reply => .error ?_
      simp [Envelope.failureOf, Error.kind]
  · intro r
    unfold admitted
    split
    · exact .ok _
    · intro e he hserver
      rcases eq_error_or_of_bind_eq_error he with he | ⟨reply, hreply, he⟩
      · exact absurd hserver (incidental_of_readReply r e he).2
      · cases he
        rw [← status_of_readReply hreply]
        rfl
  · intro x r a hanswer ha
    unfold admitted at ha
    split at ha
    · next hsuccess => exact ⟨r, hanswer, eq_of_beq hsuccess⟩
    · obtain ⟨reply, -, ha⟩ := exists_of_bind_eq_ok ha
      cases ha

theorem makesOne_fetch (s : Session) (action : String) (form : Form) :
    MakesOne .download (s.fetch action form) := by
  rw [fetch_eq_exchange]
  exact .of_response (s.unserved_actionRequest action none (.post · form)) admits_admitted

theorem unserved_requireBlobId (blobId : String) :
    FailsOnly Error.Unserved (requireBlobId blobId) := by
  unfold requireBlobId
  split
  · exact .error (Error.unserved_required _)
  · exact .ok _

theorem makesOne_download (s : Session) (blobId : String) :
    MakesOne .download (s.download blobId) :=
  .guard (unserved_requireBlobId blobId) fun _ => s.makesOne_fetch _ _

theorem incidental_readLength (text : String) : FailsOnly Error.Incidental (readLength text) := by
  unfold readLength
  split
  · exact .ok _
  · exact .error (Error.incidental_protocol _)

theorem makesOne_blobLength (s : Session) (blobId : String) :
    MakesOne .document (s.blobLength blobId) := by
  refine .guard (unserved_requireBlobId blobId) fun _ => ?_
  refine (s.makesOne_postAction _ _).bind fun envelope => ?_
  split
  · exact quiet_lift (incidental_readLength _)
  · exact quiet_throw (Error.incidental_protocol _)

theorem makesOne_databaseMetadata (s : Session) : MakesOne .document s.databaseMetadata :=
  (s.makesOne_getAction _ _).bind fun _ => quiet_pure _

theorem makesOne_tableNames (s : Session) (tableType : Option String) :
    MakesOne .document (s.tableNames tableType) := by
  refine (s.makesOne_postAction _ _).bind fun envelope => ?_
  split
  · exact quiet_pure _
  · exact quiet_throw (Error.incidental_protocol _)

theorem makesOne_table (s : Session) (tableName : String) :
    MakesOne .document (s.table tableName) := by
  unfold table
  dsimp only
  split
  · exact .throw (Error.unserved_required _) _
  · exact (s.makesOne_postAction _ _).bind fun _ => quiet_pure _

theorem makesOne_schema (s : Session) (format tableName : Option String) :
    MakesOne .download (s.schema format tableName) := by
  unfold schema
  dsimp only
  split
  · exact .throw (by simp [Error.Unserved, Error.kind]) _
  · exact s.makesOne_fetch _ _

end Session

namespace Manager

theorem unserved_resumeRequest (u id : String) : FailsOnly Error.Unserved (resumeRequest u id) :=
  (unserved_require _ _).bind fun _ => (unserved_require _ _).bind fun _ =>
    (unserved_serverPath _ _).bind fun _ => .ok _

theorem judges_resumed (u d n id : String) : Judges (resumed u d n id) :=
  judges_document.bind fun envelope => (incidental_requiredField envelope _).bind fun _ => .ok _

theorem makesOne_resume (u d n id : String) : MakesOne .document (resume u d n id) := by
  rw [resume_eq_exchange]
  exact .of_document (unserved_resumeRequest u id) (judges_resumed u d n id)

theorem judges_sessionOf (u d n : String) : Judges (sessionOf u d n) := by
  have hfields : ∀ e : Envelope, FailsOnly Error.Incidental (do
      let sessionId ← e.requiredField "session_id"
      let connectionId ← e.requiredField "connection_id"
      return ⟨u, d, n, sessionId, connectionId⟩ : Except Error Session) := fun e =>
    (incidental_requiredField e _).bind fun _ => (incidental_requiredField e _).bind fun _ => .ok _
  constructor
  · intro reply
    unfold sessionOf
    dsimp only
    split
    · exact .error (by simp [Error.kind])
    · exact (hfields _).imp fun e he => he.1
  · intro reply
    unfold sessionOf
    dsimp only
    split
    · exact .error fun _ => rfl
    · exact (hfields _).imp fun e he hserver => absurd hserver he.2
  · intro reply s hs
    unfold sessionOf at hs
    dsimp only at hs
    split at hs
    · cases hs
    · next hv =>
      unfold Envelope.isOk
      rw [hv]

theorem makesOne_passwordLogin (u d n pw : String) :
    MakesOne .document (passwordLogin u d n pw) := by
  rw [passwordLogin_eq_exchange]
  exact .of_document ((unserved_serverPath _ _).bind fun _ => .ok _) (judges_sessionOf u d n)

end Manager

end RemoteSql
