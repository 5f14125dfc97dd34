import Mathlib
import RemoteSql.Connection.Basic
import RemoteSql.Proofs.Envelope.Out
import RemoteSql.Proofs.Session.Blame
import RemoteSql.Proofs.Statement.Out

/-!
# Statements that fill slots

A caller of a procedure lends the slots for what it gives back. Whatever goes wrong, at the
connection, on the wire or with the reply, the slots are then as they were; and a reply of success is
refused only if a slot is left without a value.
-/

namespace RemoteSql

/-- Work with a server on slots that a caller has lent, if any. -/
abbrev LentM := ExceptT Error (StateM (Wire × Option Parameters))

namespace LentM

def onWire {α : Type} (x : WireM α) : LentM α := fun s =>
  let (r, w) := x.run s.1
  (r, w, s.2)

def onSlots (x : Parameters.SlotsM Unit) : LentM Unit := fun s =>
  match s.2 with
  | none => (.ok (), s)
  | some slots =>
    let (r, slots) := x.run slots
    (r, s.1, some slots)

theorem run_onWire {α : Type} (x : WireM α) (w : Wire) (given : Option Parameters) :
    (onWire x).run (w, given) = ((x.run w).1, (x.run w).2, given) := rfl

theorem run_onSlots (x : Parameters.SlotsM Unit) (w : Wire) (slots : Parameters) :
    (onSlots x).run (w, some slots) = ((x.run slots).1, w, some (x.run slots).2) := rfl

end LentM

namespace Connection

variable (c : Connection) (s : Statement)

def rowsOf (e : Envelope) : Int := (e.integer? "row_count").getD 0

def updateEnvelope : WireM Envelope := do
  c.ensureOpen
  requireSql s
  c.session.postAction (updateAction s.isProcedure) (s.form none)

/-- Runs a statement that changes data, the slots filled in place. -/
def update : LentM Int := do
  let envelope ← LentM.onWire (c.updateEnvelope s)
  if s.isProcedure then LentM.onSlots (Parameters.fill envelope.outByIndex) else pure ()
  return rowsOf envelope

def updateRequest : Except Error Request := do
  c.ensureOpen
  requireSql s
  let url ← c.session.actionUrl (updateAction s.isProcedure) none
  return .post url (s.form none)

def settle (given : Option Parameters) (e : Envelope) : Except Error (Int × Option Parameters) :=
  match s.isProcedure, given with
  | true, some slots =>
    (Parameters.reconcile e.outByIndex slots).map fun slots => (rowsOf e, some slots)
  | _, given => .ok (rowsOf e, given)

variable {s} in
theorem settle_of_not_procedure (h : s.isProcedure = false) (given : Option Parameters)
    (e : Envelope) : settle s given e = .ok (rowsOf e, given) := by
  simp only [settle, h]

theorem settle_none (e : Envelope) : settle s none e = .ok (rowsOf e, none) := by
  cases h : s.isProcedure <;> simp only [settle, h]

variable {s} in
theorem settle_of_procedure (h : s.isProcedure = true) (slots : Parameters) (e : Envelope) :
    settle s (some slots) e =
      (Parameters.reconcile e.outByIndex slots).map fun slots => (rowsOf e, some slots) := by
  simp only [settle, h]

theorem updateEnvelope_eq_exchange :
    c.updateEnvelope s = Wire.exchange (c.updateRequest s) fun r => r.readReply >>= Reply.document := by
  unfold updateEnvelope updateRequest
  rw [Session.postAction_eq_exchange]
  simp only [Wire.lift_bind_exchange]
  rfl

theorem executeUpdate_eq_bind (given : Option Parameters) :
    c.executeUpdate s given =
      (c.updateEnvelope s >>= fun e => liftM (settle s given e) :
        WireM (Int × Option Parameters)) := by
  rw [executeUpdate, updateEnvelope]
  simp only [bind_assoc]
  refine bind_congr fun _ => bind_congr fun _ => bind_congr fun e => ?_
  cases hprocedure : s.isProcedure with
  | false =>
    rw [settle_of_not_procedure hprocedure]
    rfl
  | true =>
    cases given with
    | none =>
      rw [settle_none]
      rfl
    | some slots =>
      rw [settle_of_procedure hprocedure]
      dsimp only
      cases Parameters.reconcile e.outByIndex slots <;> rfl

theorem run_executeUpdate_error {e : Error} (h : c.updateRequest s = .error e)
    (given : Option Parameters) (w : Wire) : (c.executeUpdate s given).run w = (.error e, w) := by
  rw [executeUpdate_eq_bind, updateEnvelope_eq_exchange, h]
  rfl

theorem run_executeUpdate_ok {request : Request} (h : c.updateRequest s = .ok request)
    (given : Option Parameters) (w : Wire) :
    (c.executeUpdate s given).run w =
      (((Wire.replyOf w.upcoming.answer).bind Reply.document).bind (settle s given),
        w.after request) := by
  rw [executeUpdate_eq_bind, updateEnvelope_eq_exchange, h, Wire.exchange_bind_lift,
    Wire.run_exchange_ok]
  simp only [bind_assoc]
  rw [Wire.responseOf_bind_readReply]
  refine congrArg (fun r => (r, w.after request)) ?_
  exact (bind_assoc (Wire.replyOf w.upcoming.answer) Reply.document (settle s given)).symm

/-- Filled in place or at once, the slots come to the same, except that a failure leaves them in
place. -/
theorem run_update (given : Option Parameters) (w : Wire) :
    (c.update s).run (w, given) =
      match (c.executeUpdate s given).run w with
      | (.ok (n, left), w') => (.ok n, w', left)
      | (.error e, w') => (.error e, w', given) := by
  rw [update, run_bind, LentM.run_onWire, executeUpdate_eq_bind, run_bind]
  obtain ⟨r, w'⟩ := (c.updateEnvelope s).run w
  cases r with
  | error e => rfl
  | ok envelope =>
    dsimp only
    cases hprocedure : s.isProcedure with
    | false =>
      rw [if_neg (by decide), settle_of_not_procedure hprocedure]
      rfl
    | true =>
      rw [if_pos rfl, run_bind]
      cases given with
      | none =>
        rw [settle_none]
        rfl
      | some slots =>
        rw [settle_of_procedure hprocedure, LentM.run_onSlots, Parameters.run_fill]
        cases Parameters.reconcile envelope.outByIndex slots <;> rfl

/-- A slot before and after it was filled from the output parameters of a reply. -/
structure FilledBy (members : Json.Members) (b b' : UInt32 × Parameter) : Prop where
  key : b'.1 = b.1
  index : b'.2.index = b.2.index
  type : b'.2.type = b.2.type
  direction : b'.2.direction = b.2.direction
  value : ∃ m, Envelope.Decides members b.1 m ∧ Envelope.OutText m.2 b'.2.value

/-- The keys of slots that no output parameter spells. -/
def missingKeys (slots : Parameters) (members : Json.Members) : Set UInt32 :=
  {index | index ∈ SortedMap.keys slots ∧ Envelope.Unspelled members index}

structure Verdict (s : Statement) (given : Option Parameters) (members : Json.Members)
    (r : Except Error Int) : Prop where
  fails_iff : (∃ e, r = .error e ∧ e.errorType = 4) ↔
    s.isProcedure = true ∧ ∃ slots, given = some slots ∧ slots ≠ [] ∧
      ∃ index, index ∈ missingKeys slots members
  named : ∀ e, r = .error e → (∃ index, ¬Envelope.Unspelled members index) →
    ∃ slots index, given = some slots ∧ IsLeast (missingKeys slots members) index ∧
      e.message = "Protocol error: Stored procedure out parameter " ++ toString index ++
        " not returned by AceQL Server"
  unnamed : ∀ e, r = .error e → (∀ index, Envelope.Unspelled members index) →
    e = .protocol .noOutParameters

/-- What becomes of the slots, of the wire and of the call. -/
structure AllOrNothing (c : Connection) (s : Statement) (w : Wire) (given : Option Parameters)
    (o : Except Error Int × Wire × Option Parameters) : Prop where
  agrees : (c.executeUpdate s given).run w = (o.1.map fun n => (n, o.2.2), o.2.1)
  failed : ∀ e, o.1 = .error e → o.2.2 = given
  untouched : s.isProcedure = false ∨ given = none → o.2.2 = given
  filled : ∀ n slots, o.1 = .ok n → s.isProcedure = true → given = some slots →
    ∃ filled reply ms members, o.2.2 = some filled ∧
      Wire.replyOf w.upcoming.answer = .ok reply ∧ Envelope.Declares reply.body .ok ms ∧
      Envelope.OutMembers ms members ∧ List.Forall₂ (FilledBy members) slots filled
  verdict : ∀ request reply ms, o.2.1 = w.after request →
    Wire.replyOf w.upcoming.answer = .ok reply → Envelope.Declares reply.body .ok ms →
    ∃ members, Envelope.OutMembers ms members ∧ Verdict s given members o.1

section Settle

open Envelope (outs outMembers Unspelled)

variable {s} {slots : Parameters} {members : Json.Members}

theorem outs_eq_nil_iff : outs members = [] ↔ ∀ index, Unspelled members index := by
  rw [SortedMap.eq_nil_iff]
  exact forall_congr' fun index => Envelope.get?_outs_eq_none_iff

inductive Lacking (slots : Parameters) (members : Json.Members) : Error → Prop
  | nothing (h : ∀ index, Unspelled members index) :
      Lacking slots members (.protocol .noOutParameters)
  | missing {index : UInt32} (h : ∃ index, ¬Unspelled members index)
      (hleast : IsLeast (missingKeys slots members) index) :
      Lacking slots members (.protocol (.noOutParameter index))

theorem Lacking.errorType_eq {e : Error} (h : Lacking slots members e) : e.errorType = 4 := by
  cases h <;> rfl

theorem ne_nil_of_missingKey {index : UInt32} (h : index ∈ missingKeys slots members) :
    slots ≠ [] := by
  rintro rfl
  cases h.1

theorem exists_lacking (hslots : SortedMap.Ascending slots) {index : UInt32}
    (h : index ∈ missingKeys slots members) :
    ∃ e, Parameters.reconcile (outs members) slots = .error e ∧ Lacking slots members e := by
  by_cases hreturned : outs members = []
  · refine ⟨_, ?_, .nothing (outs_eq_nil_iff.mp hreturned)⟩
    rw [hreturned, Parameters.reconcile_of_empty (ne_nil_of_missingKey h)]
  · obtain ⟨least, hleast, hreconcile⟩ := Parameters.reconcile_of_missing hslots hreturned h.1
      (Envelope.get?_outs_eq_none_iff.mpr h.2)
    have hset : {index | index ∈ SortedMap.keys slots ∧ (outs members).get? index = none} =
        missingKeys slots members := by
      ext index
      exact and_congr_right fun _ => Envelope.get?_outs_eq_none_iff
    refine ⟨_, hreconcile, .missing ?_ (hset ▸ hleast)⟩
    rw [outs_eq_nil_iff] at hreturned
    exact not_forall.mp hreturned

theorem reconcile_of_spelled (h : ∀ index, index ∉ missingKeys slots members) :
    Parameters.reconcile (outs members) slots =
      .ok (slots.map (Parameters.filled (outs members))) := by
  apply Parameters.reconcile_of_complete
  intro index hindex hnone
  exact h index ⟨hindex, Envelope.get?_outs_eq_none_iff.mp hnone⟩

/-- A slot that is not missing is filled by the member that decides on it. -/
theorem filledBy_filled (hmembers : SortedMap.Ascending members) {b : UInt32 × Parameter}
    (hb : b ∈ slots) (h : ∀ index, index ∉ missingKeys slots members) :
    FilledBy members b (Parameters.filled (outs members) b) := by
  obtain ⟨value, hvalue⟩ : ∃ value, (outs members).get? b.1 = some value := by
    apply Option.ne_none_iff_exists'.mp
    intro hnone
    exact h b.1 ⟨List.mem_map_of_mem hb, Envelope.get?_outs_eq_none_iff.mp hnone⟩
  obtain ⟨m, hm, hout⟩ := Envelope.exists_decides hmembers hvalue
  refine ⟨Parameters.filled_key b, Parameters.filled_index b, Parameters.filled_type b,
    Parameters.filled_direction b, m, hm, ?_⟩
  rw [Parameters.filled_value hvalue]
  exact hout

theorem Verdict.of_ok {given : Option Parameters} (n : Int)
    (h : ¬(s.isProcedure = true ∧ ∃ slots, given = some slots ∧ slots ≠ [] ∧
      ∃ index, index ∈ missingKeys slots members)) : Verdict s given members (.ok n) := by
  refine ⟨⟨?_, fun h' => absurd h' h⟩, ?_, ?_⟩
  · rintro ⟨e, he, -⟩
    cases he
  · rintro e ⟨⟩
  · rintro e ⟨⟩

theorem Verdict.of_lacking (hs : s.isProcedure = true) {index : UInt32}
    (hindex : index ∈ missingKeys slots members) {e : Error} (h : Lacking slots members e) :
    Verdict s (some slots) members (.error e) := by
  refine ⟨?_, ?_, ?_⟩
  · constructor
    · exact fun _ => ⟨hs, slots, rfl, ne_nil_of_missingKey hindex, index, hindex⟩
    · exact fun _ => ⟨e, rfl, h.errorType_eq⟩
  · rintro e ⟨⟩ ⟨spelled, hspelled⟩
    cases h with
    | nothing hnone => exact absurd (hnone spelled) hspelled
    | missing _ hleast => exact ⟨slots, _, rfl, hleast, rfl⟩
  · rintro e ⟨⟩ hnone
    cases h with
    | nothing => rfl
    | missing hsome _ =>
      obtain ⟨spelled, hspelled⟩ := hsome
      exact absurd (hnone spelled) hspelled

variable {given : Option Parameters}

theorem settle_of_outMembers (hs : s.isProcedure = true) (e : Envelope) :
    settle s (some slots) e =
      (Parameters.reconcile (outs (outMembers e)) slots).map fun slots => (rowsOf e, some slots) := by
  rw [settle_of_procedure hs, Envelope.outByIndex_eq]

theorem verdict_settle (hgiven : ∀ slots, given = some slots → SortedMap.Ascending slots)
    (e : Envelope) : Verdict s given (outMembers e) ((settle s given e).map Prod.fst) := by
  cases hs : s.isProcedure with
  | false =>
    rw [settle_of_not_procedure hs]
    exact .of_ok _ (by simp [hs])
  | true =>
    cases given with
    | none =>
      rw [settle_none]
      exact .of_ok _ (by simp)
    | some slots =>
      rw [settle_of_outMembers hs]
      by_cases hmissing : ∃ index, index ∈ missingKeys slots (outMembers e)
      · obtain ⟨index, hindex⟩ := hmissing
        obtain ⟨error, herror, hlacking⟩ := exists_lacking (hgiven slots rfl) hindex
        rw [herror]
        exact .of_lacking hs hindex hlacking
      · rw [reconcile_of_spelled (not_exists.mp hmissing)]
        refine .of_ok _ ?_
        rintro ⟨-, slots', hslots', -, h⟩
        cases hslots'
        exact hmissing h

theorem settle_untouched (h : s.isProcedure = false ∨ given = none) (e : Envelope) :
    settle s given e = .ok (rowsOf e, given) := by
  rcases h with h | rfl
  · exact settle_of_not_procedure h given e
  · exact settle_none s e

theorem filled_of_settle (hslots : SortedMap.Ascending slots) (hs : s.isProcedure = true) {n : Int}
    {left : Option Parameters} {reply : Reply}
    (h : settle s (some slots) (Envelope.ofReply reply) = .ok (n, left)) :
    ∃ filled, left = some filled ∧
      List.Forall₂ (FilledBy (outMembers (Envelope.ofReply reply))) slots filled := by
  rw [settle_of_outMembers hs] at h
  obtain ⟨filled, hreconcile, hpair⟩ := exists_of_map_eq_ok h
  obtain ⟨-, rfl⟩ := Prod.mk.inj hpair
  -- had a key been missing, the slots would have been refused
  have hspelled : ∀ index, index ∉ missingKeys slots (outMembers (Envelope.ofReply reply)) := by
    intro index hindex
    obtain ⟨e, he, -⟩ := exists_lacking hslots hindex
    rw [hreconcile] at he
    cases he
  rw [reconcile_of_spelled hspelled] at hreconcile
  obtain rfl := Except.ok.inj hreconcile
  refine ⟨_, rfl, List.forall₂_map_right_iff.mpr (List.forall₂_same.mpr ?_)⟩
  intro b hb
  exact filledBy_filled (Envelope.ascending_objectField reply _) hb hspelled

end Settle

theorem exists_reply_of_settled {answer : Except String Response} {given : Option Parameters}
    {a : Int × Option Parameters}
    (h : ((Wire.replyOf answer).bind Reply.document).bind (settle s given) = .ok a) :
    ∃ reply ms, Wire.replyOf answer = .ok reply ∧ Envelope.Declares reply.body .ok ms ∧
      settle s given (Envelope.ofReply reply) = .ok a := by
  obtain ⟨e, he, ha⟩ := exists_of_bind_eq_ok h
  obtain ⟨reply, hreply, hdocument⟩ := exists_of_bind_eq_ok he
  rw [Reply.document_eq] at hdocument
  obtain ⟨document, htoExcept, rfl⟩ := exists_of_map_eq_ok hdocument
  have hok := Envelope.isOk_of_toExcept htoExcept
  obtain ⟨ms, hms⟩ := (Envelope.isOk_ofReply_iff reply).mp hok
  exact ⟨reply, ms, hreply, hms, ha⟩

theorem settled_of_declares {answer : Except String Response} {reply : Reply}
    {ms : List (String × Json)} (hreply : Wire.replyOf answer = .ok reply)
    (hms : Envelope.Declares reply.body .ok ms) (given : Option Parameters) :
    ((Wire.replyOf answer).bind Reply.document).bind (settle s given) =
      settle s given (Envelope.ofReply reply) := by
  have hbind : ∀ {α β : Type} (a : α) (f : α → Except Error β), (Except.ok a).bind f = f a :=
    fun _ _ => rfl
  have hok := (Envelope.isOk_ofReply_iff reply).mpr ⟨ms, hms⟩
  rw [hreply, hbind, Reply.document_of_isOk hok, hbind]

theorem verdict_of_settled {answer : Except String Response} {given : Option Parameters}
    (hgiven : ∀ slots, given = some slots → SortedMap.Ascending slots) {reply : Reply}
    {ms : List (String × Json)} (hreply : Wire.replyOf answer = .ok reply)
    (hms : Envelope.Declares reply.body .ok ms) {r : Except Error (Int × Option Parameters)}
    (hr : ((Wire.replyOf answer).bind Reply.document).bind (settle s given) = r) :
    ∃ members, Envelope.OutMembers ms members ∧ Verdict s given members (r.map Prod.fst) := by
  refine ⟨_, Envelope.outMembers_ofReply hms, ?_⟩
  rw [← hr, settled_of_declares s hreply hms]
  exact verdict_settle hgiven (Envelope.ofReply reply)

/-- Slots that are lent to a call are filled when it succeeds, all of them, and are as they were when
it fails. -/
theorem update_allOrNothing (w : Wire) (given : Option Parameters)
    (hgiven : ∀ slots, given = some slots → SortedMap.Ascending slots) :
    AllOrNothing c s w given ((c.update s).run (w, given)) := by
  rw [run_update]
  cases hrequest : c.updateRequest s with
  | error e =>
    have hexecute := c.run_executeUpdate_error s hrequest given w
    rw [hexecute]
    refine ⟨hexecute, fun _ _ => rfl, fun _ => rfl, ?_, ?_⟩
    · rintro n slots ⟨⟩
    · intro request reply ms hw
      exact absurd hw.symm (Wire.after_ne w request)
  | ok request =>
    have hexecute := c.run_executeUpdate_ok s hrequest given w
    rw [hexecute]
    cases hr : ((Wire.replyOf w.upcoming.answer).bind Reply.document).bind (settle s given) with
    | error e =>
      refine ⟨hexecute.trans (by rw [hr]; rfl), fun _ _ => rfl, fun _ => rfl, ?_, ?_⟩
      · rintro n slots ⟨⟩
      · exact fun _ reply ms _ hreply hms => verdict_of_settled s hgiven hreply hms hr
    | ok a =>
      obtain ⟨n, left⟩ := a
      refine ⟨hexecute.trans (by rw [hr]; rfl), ?_, ?_, ?_, ?_⟩
      · rintro e ⟨⟩
      · intro h
        obtain ⟨reply, ms, -, -, hsettle⟩ := exists_reply_of_settled s hr
        rw [settle_untouched h] at hsettle
        exact (Prod.mk.inj (Except.ok.inj hsettle)).2.symm
      · rintro n' slots - hs rfl
        obtain ⟨reply, ms, hreply, hms, hsettle⟩ := exists_reply_of_settled s hr
        obtain ⟨filled, hleft, hfilled⟩ := filled_of_settle (hgiven slots rfl) hs hsettle
        exact ⟨filled, reply, ms, _, hleft, hreply, hms, Envelope.outMembers_ofReply hms, hfilled⟩
      · exact fun _ reply ms _ hreply hms => verdict_of_settled s hgiven hreply hms hr

/-- One reply, a success with an object of output parameters. -/
def giving (object : String) : Wire where
  exchanges := [{ answer := .ok ⟨.ofBytes (Utf8.encode
    ("\x7b\"status\":\"OK\",\"parameters_out_per_index\":" ++ object ++ "\x7d")), ⟨200, "OK"⟩⟩ }]

/-- Two values for the second parameter and none for the first. -/
def secondTwice : Wire := giving "\x7b\" 2\":\"a\",\"+2\":null\x7d"

/-- An array for the first parameter, and for the second one nothing. -/
def eachOnce : Wire := giving "\x7b\"1\":[ 7],\"+02\":\"NULL\"\x7d"

def twoSlots : Parameters :=
  [(1, ⟨1, "INTEGER", none, .output⟩), (2, ⟨2, "VARCHAR", some "x", .inputOutput⟩)]

def callOfTwo : LentM Int :=
  update { session := ⟨"http://h", "d", "n", "s", "1"⟩, options := {} }
    { sql := "call p(?, ?)", isProcedure := true, parameters := twoSlots }

/-- One call that leaves the slots as they were, and one that fills them both. -/
theorem update_allOrNothing_firstMissing :
    ((callOfTwo.run (secondTwice, some twoSlots)).1 = .error (.protocol (.noOutParameter 1)) ∧
      (callOfTwo.run (secondTwice, some twoSlots)).2.2 = some twoSlots) ∧
    (callOfTwo.run (eachOnce, some twoSlots)).1 = .ok 0 ∧
      ∃ members, List.Forall₂ (FilledBy members) twoSlots
        [(1, ⟨1, "INTEGER", some "[7]", .output⟩), (2, ⟨2, "VARCHAR", none, .inputOutput⟩)] := by
  have hslots : ∀ slots, some twoSlots = some slots → SortedMap.Ascending slots := by
    rintro slots ⟨⟩
    simp [twoSlots, SortedMap.Ascending]
  constructor
  · have herror : (callOfTwo.run (secondTwice, some twoSlots)).1 =
        .error (.protocol (.noOutParameter 1)) := eq_error_of_fault? (by decide +kernel)
    exact ⟨herror, (update_allOrNothing _ _ secondTwice (some twoSlots) hslots).failed _ herror⟩
  · have hrun : ((callOfTwo.run (eachOnce, some twoSlots)).1.toOption,
        (callOfTwo.run (eachOnce, some twoSlots)).2.2) = (some 0, some
        [(1, ⟨1, "INTEGER", some "[7]", .output⟩), (2, ⟨2, "VARCHAR", none, .inputOutput⟩)]) := by
      decide +kernel
    obtain ⟨hsome, hleft⟩ := Prod.mk.inj hrun
    have hok := eq_ok_of_toOption hsome
    obtain ⟨filled, reply, ms, members, hfilled, -, -, -, hby⟩ :=
      (update_allOrNothing _ _ eachOnce (some twoSlots) hslots).filled 0 twoSlots hok rfl rfl
    obtain rfl := Option.some.inj (hleft.symm.trans hfilled)
    exact ⟨hok, members, hby⟩

end Connection

end RemoteSql
