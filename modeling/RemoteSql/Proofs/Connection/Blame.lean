import Mathlib
import RemoteSql.Proofs.Connection.Lifecycle
import RemoteSql.Proofs.Cursor.Fault
import RemoteSql.Proofs.Payload.Truncation
import RemoteSql.Proofs.Session.Blame

/-!
# Whom the errors of a connection blame

Each operation of a connection makes one request at most, and what goes on before and after it keeps
to what the answer settles. Only a download with progress makes two requests, and only an upload can
be withdrawn while its request is on the way; what those two come to is told with their steps.
-/

namespace RemoteSql

namespace Cursor

/-- A cursor is not opened for the payload's own sake, for the status' sake or for the source's. -/
theorem faults_of_ofResponse (r : Response) :
    FailsOnly (fun e => e.Incidental ∨ e.kind = .server ∧ e.httpCode = some r.status.code)
      (ofResponse r) := by
  have hincidental : ∀ {γ : Type} {x : Except Error γ}, FailsOnly Error.Incidental x →
      FailsOnly (fun e => e.Incidental ∨ e.kind = .server ∧ e.httpCode = some r.status.code) x :=
    fun h => h.imp fun _ => Or.inl
  unfold ofResponse
  split
  · exact .error (Or.inl (Error.incidental_transport _))
  · unfold ofPayload
    split
    · next e hscan =>
      obtain ⟨fault, rfl⟩ := Payload.protocolOnly_scan _ e hscan
      split
      · exact .error (Or.inl (Error.incidental_protocol fault))
      · exact .error (Or.inr ⟨rfl, rfl⟩)
    · next layout hscan =>
      refine .bind ?_ fun _ => .bind (hincidental (incidental_rowCount _ _)) fun _ =>
        hincidental (incidental_ofLayout _ _ _)
      intro e he
      obtain ⟨hkind, hcode⟩ := Envelope.toExcept_error he
      rw [Envelope.http_ofDocument] at hcode
      exact Or.inr ⟨hkind, hcode⟩

theorem admits_ofResponse : Admits .stream ofResponse := by
  constructor
  · intro x
    rfl
  · intro r
    refine (faults_of_ofResponse r).imp fun e he => ?_
    rcases he with he | ⟨he, -⟩
    · exact he.1
    · simp [he]
  · intro r
    refine (faults_of_ofResponse r).imp fun e he hserver => ?_
    rcases he with he | ⟨-, hcode⟩
    · exact absurd hserver he.2
    · exact hcode
  · intro x r c hanswer _
    exact ⟨r, hanswer⟩

end Cursor

theorem incidental_drain (s : Source) (w : Sink) (total : Nat) :
    FailsOnly Error.Incidental (s.drain w total).1 := by
  fun_induction Source.drain s w total with
  | case1 => exact .ok _
  | case2 => exact .error (Error.incidental_localIo _)
  | case3 _ _ _ _ _ _ _ _ _ ih => exact ih
  | case4 => exact .error (Error.incidental_localIo _)
  | case5 _ _ _ _ _ ih => exact ih
  | case6 => exact .error (Error.incidental_transport _)

namespace Copy

theorem incidental_put (c : Copy) (bs : Bytes) : FailsOnly Error.Incidental (c.put bs).1 := by
  unfold put
  split
  · exact .error (Error.incidental_localIo _)
  · exact .ok _

theorem incidental_finish (c : Copy) (written : Nat) :
    FailsOnly Error.Incidental (c.finish written).1 := by
  unfold finish
  split
  · exact .error (Error.incidental_localIo _)
  · exact .ok _

theorem incidental_fill (c : Copy) (s : Source) (written : Nat) :
    FailsOnly Error.Incidental (c.fill s written).1 := by
  fun_induction fill c s written with
  | case1 => exact .error Error.incidental_cancelled
  | case2 => exact .error (Error.incidental_transport _)
  | case3 => exact incidental_finish _ _
  | case4 c s written _ b bs _ _ e c' hput =>
    have hfails := incidental_put c (b :: bs)
    rw [hput] at hfails
    exact .error (hfails e rfl)
  | case5 _ _ _ _ _ _ _ _ _ _ ih => exact ih

end Copy

namespace Connection

variable {α : Type} (c : Connection)

theorem incidental_ensureOpen : FailsOnly Error.Incidental c.ensureOpen := by
  unfold ensureOpen
  split
  · exact .error (Error.incidental_closed _)
  · exact .ok _

/-- Work of an open connection is blamed as what it does is. -/
theorem makesOne_guarded {i : Intake} {f : Unit → WireM α} (h : ∀ u, MakesOne i (f u)) :
    MakesOne i (liftM c.ensureOpen >>= f) :=
  .guard (c.incidental_ensureOpen.imp fun _ => Error.Incidental.unserved) h

theorem makesOne_whileOpen {i : Intake} {work : Session → WireM α}
    (h : ∀ s, MakesOne i (work s)) : MakesOne i (c.whileOpen work) :=
  c.makesOne_guarded fun _ => h c.session

theorem makesOne_run (action : String) (param : Option String) :
    MakesOne .document (c.run action param) :=
  c.makesOne_guarded fun _ => (c.session.makesOne_getAction action param).bind fun _ => quiet_pure _

theorem makesOne_ask (action : String) (param : Option String) :
    MakesOne .document (c.ask action param) := by
  refine c.makesOne_guarded fun _ => (c.session.makesOne_getAction action param).bind ?_
  intro envelope
  split
  · exact quiet_pure _
  · exact quiet_throw (Error.incidental_protocol _)

theorem makesOne_duplicate : MakesOne .document c.duplicate :=
  c.makesOne_guarded fun _ => (Manager.makesOne_resume _ _ _ _).bind fun _ => quiet_pure _

theorem incidental_parseTruth (text : String) : FailsOnly Error.Incidental (parseTruth text) := by
  unfold parseTruth
  dsimp only
  split
  · exact .ok _
  · split
    · exact .ok _
    · exact .error (Error.incidental_protocol _)

theorem incidental_parseHoldability (text : String) :
    FailsOnly Error.Incidental (Holdability.parse text) := by
  unfold Holdability.parse
  dsimp only
  split
  · exact .ok _
  · exact .error (Error.incidental_protocol _)

theorem incidental_parseIsolation (text : String) :
    FailsOnly Error.Incidental (Isolation.parse text) := by
  unfold Isolation.parse
  dsimp only
  split
  · exact .ok _
  · exact .error (Error.incidental_protocol _)

theorem unserved_requireSql (s : Statement) : FailsOnly Error.Unserved (requireSql s) :=
  unserved_require "sql" s.sql

theorem incidental_reconcile (returned : SortedMap UInt32 (Option String)) (slots : Parameters) :
    FailsOnly Error.Incidental (Parameters.reconcile returned slots) := by
  unfold Parameters.reconcile
  split
  · exact .ok _
  · split
    · exact .error (Error.incidental_protocol _)
    · split
      · exact .error (Error.incidental_protocol _)
      · exact .ok _

theorem makesOne_executeUpdate (s : Statement) (slots : Option Parameters) :
    MakesOne .document (c.executeUpdate s slots) := by
  refine c.makesOne_guarded fun _ => .guard (unserved_requireSql s) fun _ => ?_
  refine (c.session.makesOne_postAction _ _).bind fun envelope => ?_
  split
  · exact (quiet_lift (incidental_reconcile _ _)).bind fun _ => (quiet_pure _).bind fun _ =>
      quiet_pure _
  · exact (quiet_pure _).bind fun _ => quiet_pure _

/-- A query whose response is used in some way. -/
theorem executeQuery_bind (s : Statement) (use : Response → Except Error α) :
    (c.executeQuery s >>= fun r => liftM (use r) : WireM α) =
      (liftM c.ensureOpen >>= fun _ => liftM (requireSql s) >>= fun _ =>
        Wire.exchange (c.session.actionUrl "execute_query" none >>= fun url =>
          .ok (.post url (s.form (some c.options.gzipResult)))) use : WireM α) := by
  have hquery : c.executeQuery s =
      (liftM c.ensureOpen >>= fun _ => liftM (requireSql s) >>= fun _ =>
        Wire.exchange (c.session.actionUrl "execute_query" none >>= fun url =>
          .ok (.post url (s.form (some c.options.gzipResult)))) .ok : WireM Response) := by
    unfold executeQuery
    simp only [Wire.postStream_eq_exchange, Wire.lift_bind_exchange]
  rw [hquery]
  simp only [bind_assoc, Wire.exchange_bind_lift]
  rfl

theorem makesOne_executeQuery_bind (s : Statement) {use : Response → Except Error α}
    (huse : Admits .stream use) :
    MakesOne .stream (c.executeQuery s >>= fun r => liftM (use r) : WireM α) := by
  rw [executeQuery_bind]
  refine c.makesOne_guarded fun _ => .guard (unserved_requireSql s) fun _ => ?_
  exact .of_response (c.session.unserved_actionRequest _ none (.post · _)) huse

theorem admits_ok : Admits .stream (Except.ok : Response → Except Error Response) :=
  ⟨fun _ => rfl, fun _ => .ok _, fun _ => .ok _, fun _ r _ hanswer _ => ⟨r, hanswer⟩⟩

theorem makesOne_executeQuery (s : Statement) : MakesOne .stream (c.executeQuery s) := by
  have h := c.makesOne_executeQuery_bind s admits_ok
  have hbind : (c.executeQuery s >>= fun r => liftM (Except.ok r : Except Error Response) :
      WireM Response) = c.executeQuery s := bind_pure _
  rwa [hbind] at h

theorem makesOne_queryCursor (s : Statement) : MakesOne .stream (c.queryCursor s) :=
  c.makesOne_executeQuery_bind s Cursor.admits_ofResponse

theorem single_schemaTo (format tableName : Option String) (sink : Sink) (w : Wire) :
    Single .download w ((c.schemaTo format tableName sink w).1.map fun _ => ())
      (c.schemaTo format tableName sink w).2.2 := by
  unfold schemaTo
  cases hopen : c.ensureOpen with
  | error e => exact .unsent (c.incidental_ensureOpen e hopen).unserved
  | ok _ =>
    have hw := c.session.makesOne_schema format tableName w
    dsimp only
    unfold Session.schemaTo
    generalize (c.session.schema format tableName).run w = out at hw ⊢
    obtain ⟨e | source, w'⟩ := out
    · exact hw.map fun _ => ()
    · exact hw.bind fun source => (incidental_drain source sink 0).map fun _ => ()

/-- Without progress, a blob is copied with one request. -/
theorem single_downloadTo (blobId : String) {copy : Copy} (hprogress : copy.progress = none)
    (w : Wire) :
    Single .download w ((c.downloadTo blobId copy w).1.map fun _ => ())
      (c.downloadTo blobId copy w).2.2 := by
  unfold downloadTo
  cases hopen : c.ensureOpen with
  | error e => exact .unsent (c.incidental_ensureOpen e hopen).unserved
  | ok _ =>
    have hw := c.session.makesOne_download blobId w
    dsimp only
    unfold Session.downloadTo
    rw [hprogress]
    dsimp only
    generalize (c.session.download blobId).run w = out at hw ⊢
    obtain ⟨e | source, w'⟩ := out
    · exact hw.map fun _ => ()
    · exact hw.bind fun source => (copy.incidental_fill source 0).map fun _ => ()

namespace Operation

/-- How an operation takes the answer that it ends with. -/
def intake : Operation → Intake
  | executeQuery _ | queryCursor _ => .stream
  | download _ | downloadTo .. | schema .. | schemaTo .. => .download
  | upload _ length reader =>
    .upload { reader with progress := reader.progress.map fun p : Progress => p.begin length }
  | _ => .document

/-- Whether an operation is known to make one request at most, and not to be withdrawn. -/
def IsPlain : Operation → Prop
  | downloadTo _ copy => copy.progress = none
  | upload .. => False
  | _ => True

end Operation

theorem makesOne_work {o : Operation} (h : o.IsPlain) : MakesOne o.intake (o.work c) := by
  cases o with
  | run action param => exact c.makesOne_run action param
  | commit | rollback | setAutoCommit on | setReadOnly on | setHoldability level
  | setIsolation level => exact c.makesOne_run _ _
  | ask action param => exact (c.makesOne_ask action param).discard
  | serverVersion => exact (c.makesOne_ask _ _).discard
  | autoCommit | isReadOnly =>
    exact ((c.makesOne_ask _ _).bind fun _ => quiet_lift (incidental_parseTruth _)).discard
  | holdability =>
    exact ((c.makesOne_ask _ _).bind fun _ => quiet_lift (incidental_parseHoldability _)).discard
  | isolation =>
    exact ((c.makesOne_ask _ _).bind fun _ => quiet_lift (incidental_parseIsolation _)).discard
  | executeUpdate s slots => exact (c.makesOne_executeUpdate s slots).discard
  | executeQuery s => exact (c.makesOne_executeQuery s).discard
  | queryCursor s => exact (c.makesOne_queryCursor s).discard
  | download blobId => exact (c.makesOne_whileOpen fun s => s.makesOne_download blobId).discard
  | blobLength blobId => exact (c.makesOne_whileOpen fun s => s.makesOne_blobLength blobId).discard
  | downloadTo blobId copy => exact fun w => c.single_downloadTo blobId h w
  | upload blobId length reader => exact h.elim
  | databaseMetadata => exact (c.makesOne_whileOpen Session.makesOne_databaseMetadata).discard
  | tableNames tableType =>
    exact (c.makesOne_whileOpen fun s => s.makesOne_tableNames tableType).discard
  | table tableName => exact (c.makesOne_whileOpen fun s => s.makesOne_table tableName).discard
  | schema format tableName =>
    exact (c.makesOne_whileOpen fun s => s.makesOne_schema format tableName).discard
  | schemaTo format tableName sink => exact fun w => c.single_schemaTo format tableName sink w

end Connection

end RemoteSql
