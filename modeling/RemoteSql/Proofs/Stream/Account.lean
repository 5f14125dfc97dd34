import Mathlib
import RemoteSql.Proofs.Stream.Delivery
import RemoteSql.Proofs.Trace

/-!
# The account of a copy

A copy calls on its source and on its sink, and it is told from what these calls come to. At every
moment the sink has taken the front of what the source has served by then. The copy is whole exactly
if it has come to the end of the source and no call on the sink has failed; if one call fails, the
failure is the network's where the call was on the source, and local where it was on the sink.
-/

namespace RemoteSql

namespace Sink

/-- A write takes some octets from the front, and succeeds only if these are all. -/
theorem toBytes_write (w : Sink) (bs : Bytes) :
    ∃ n, (w.write bs).2.toBytes = w.toBytes ++ bs.take n ∧
      ((w.write bs).1 = .ok () → bs.length ≤ n) := by
  refine ⟨w.takes w.held.size bs.length, ?_⟩
  unfold write
  dsimp only
  split
  · next h => simp [toBytes, List.take_of_length_le h, h]
  · simp [toBytes]

end Sink

/-- The two ends of a copy. -/
structure Passage where
  source : Source
  sink : Sink

namespace Passage

inductive Call
  | read
  | write (bs : Bytes)
  | flush

/-- A call and what it has come to. -/
inductive Event
  | read (outcome : Except ReadFault Bytes)
  | write (bs : Bytes) (outcome : Except String Unit)
  | flush (outcome : Except String Unit)

def step : Call → Passage → Event × Passage
  | .read, p => (.read (p.source.read Source.bufferSize).1,
      { p with source := (p.source.read Source.bufferSize).2 })
  | .write bs, p => (.write bs (p.sink.write bs).1, { p with sink := (p.sink.write bs).2 })
  | .flush, p => (.flush p.sink.flush, p)

def Event.served : Event → Bytes
  | .read (.ok bs) => bs
  | .read (.error _) | .write .. | .flush _ => []

def served (events : List Event) : Bytes := events.flatMap Event.served

/-- What a copy fails with because of a call. An interrupted read may be tried again. -/
def Event.fault? : Event → Option Error
  | .read (.error .interrupted) => none
  | .read (.error fault) => some (.reading fault)
  | .write _ (.error text) | .flush (.error text) => some (.localIo text)
  | .read (.ok _) | .write _ (.ok _) | .flush (.ok _) => none

/-- The source has come to its end, every write was taken, and last of all the sink was flushed. -/
structure Whole (events : List Event) : Prop where
  ended : .read (.ok []) ∈ events
  taken : ∀ bs outcome, .write bs outcome ∈ events → outcome = .ok ()
  flushed : events.getLast? = some (.flush (.ok ()))

def Fails (e : Error) (events : List Event) : Prop := ∃ event ∈ events, event.fault? = some e

/-- The account of a copy by the calls that it has made. -/
structure Accounted (p : Passage) (calls : List Call) (out : Except Error Nat × Sink) : Prop where
  sink_eq : out.2 = (Trace.run step p calls).state.sink
  taken : ∀ before, before <+: calls → ∃ taken,
    taken <+: served (Trace.run step p before).events ∧
      (Trace.run step p before).state.sink.toBytes = p.sink.toBytes ++ taken
  ok_iff : (∃ n, out.1 = .ok n) ↔ Whole (Trace.run step p calls).events
  counted : ∀ n, out.1 = .ok n → n = (served (Trace.run step p calls).events).length ∧
    served (Trace.run step p calls).events = p.source.octets
  error_iff : ∀ e, out.1 = .error e ↔ Fails e (Trace.run step p calls).events
  /-- Only a local failure leaves octets that were served but not written. -/
  written : (∀ text, out.1 ≠ .error (.localIo text)) →
    out.2.toBytes = p.sink.toBytes ++ served (Trace.run step p calls).events

section Calls

variable {t : Trace Passage Event}

theorem served_concat (events : List Event) (e : Event) :
    served (events ++ [e]) = served events ++ e.served := by
  simp [served]

theorem next_read : t.next step .read =
    { state := ⟨(t.state.source.read Source.bufferSize).2, t.state.sink⟩
      events := t.events ++ [.read (t.state.source.read Source.bufferSize).1] } := rfl

theorem next_write (bs : Bytes) : t.next step (.write bs) =
    { state := ⟨t.state.source, (t.state.sink.write bs).2⟩
      events := t.events ++ [.write bs (t.state.sink.write bs).1] } := rfl

theorem next_flush : t.next step .flush =
    { state := t.state, events := t.events ++ [.flush t.state.sink.flush] } := rfl

/-- What was served is what the source has lost, whatever calls were made. -/
theorem octets_eq_of_run (p : Passage) (calls : List Call) :
    p.source.octets =
      served (Trace.run step p calls).events ++ (Trace.run step p calls).state.source.octets := by
  apply Trace.run_induction (P := fun t : Trace Passage Event =>
    p.source.octets = served t.events ++ t.state.source.octets)
  · rfl
  · intro t k h
    cases k with
    | read =>
      rw [next_read, served_concat, h]
      rcases hread : t.state.source.read Source.bufferSize with ⟨fault | bs, s'⟩
      · simp [Event.served, Source.octets_eq_of_fault hread]
      · simp [Event.served, Source.octets_eq_of_read hread]
    | write bs => rw [next_write, served_concat, h, Event.served, List.append_nil]
    | flush => rw [next_flush, served_concat, h, Event.served, List.append_nil]

end Calls

/-! ## What the sink is owed -/

/-- The sink has taken what was served, but for some octets at the end of it. -/
def Owes (p : Passage) (t : Trace Passage Event) (owed : Bytes) : Prop :=
  ∃ taken, served t.events = taken ++ owed ∧ t.state.sink.toBytes = p.sink.toBytes ++ taken

namespace Owes

variable {p : Passage} {t : Trace Passage Event} {owed : Bytes}

theorem next_read (h : Owes p t []) :
    Owes p (t.next step .read) (Event.read (t.state.source.read Source.bufferSize).1).served := by
  obtain ⟨taken, hserved, htaken⟩ := h
  rw [List.append_nil] at hserved
  exact ⟨taken, by rw [Passage.next_read, served_concat, hserved], htaken⟩

/-- What a write has not taken is still owed. -/
theorem next_write (h : Owes p t owed) :
    ∃ rest, Owes p (t.next step (.write owed)) rest ∧
      ((t.state.sink.write owed).1 = .ok () → rest = []) := by
  obtain ⟨taken, hserved, htaken⟩ := h
  obtain ⟨n, hbytes, hok⟩ := t.state.sink.toBytes_write owed
  refine ⟨owed.drop n, ⟨taken ++ owed.take n, ?_, ?_⟩, fun h => List.drop_of_length_le (hok h)⟩
  · rw [Passage.next_write, served_concat, Event.served, List.append_nil, hserved,
      List.append_assoc, List.take_append_drop]
  · rw [Passage.next_write, hbytes, htaken, List.append_assoc]

theorem next_flush (h : Owes p t owed) : Owes p (t.next step .flush) owed := by
  obtain ⟨taken, hserved, htaken⟩ := h
  rw [Passage.next_flush]
  exact ⟨taken, by rw [served_concat, Event.served, List.append_nil, hserved], htaken⟩

theorem toBytes_eq (h : Owes p t []) :
    t.state.sink.toBytes = p.sink.toBytes ++ served t.events := by
  obtain ⟨taken, hserved, htaken⟩ := h
  rw [htaken, hserved, List.append_nil]

end Owes

/-- Whenever the calls had been stopped, the sink would have taken the front of what was served. -/
def InOrder (p : Passage) (calls : List Call) : Prop :=
  ∀ before, before <+: calls → ∃ owed, Owes p (Trace.run step p before) owed

theorem InOrder.concat {p : Passage} {calls : List Call} (h : InOrder p calls) {k : Call}
    {owed : Bytes} (hk : Owes p (Trace.run step p (calls ++ [k])) owed) :
    InOrder p (calls ++ [k]) := by
  intro before hbefore
  rcases List.prefix_concat_iff.mp hbefore with rfl | hbefore
  · exact ⟨owed, hk⟩
  · exact h before hbefore

/-! ## How a copy goes on and ends -/

/-- A call after which a copy goes on. -/
inductive Event.Passing : Event → Prop
  | served (b : UInt8) (bs : Bytes) : Passing (.read (.ok (b :: bs)))
  | interrupted : Passing (.read (.error .interrupted))
  | taken (bs : Bytes) : Passing (.write bs (.ok ()))

theorem Event.Passing.fault?_eq {e : Event} (h : e.Passing) : e.fault? = none := by
  cases h <;> rfl

section Passing

variable {events tail : List Event}

theorem getLast?_append_eq_flush_iff (h : ∀ e ∈ events, e.Passing) {outcome : Except String Unit} :
    (events ++ tail).getLast? = some (.flush outcome) ↔
      tail.getLast? = some (.flush outcome) := by
  rw [List.getLast?_append, Option.or_eq_some_iff, or_iff_left]
  rintro ⟨-, hlast⟩
  cases h _ (List.mem_of_getLast? hlast)

theorem whole_append_iff (h : ∀ e ∈ events, e.Passing) : Whole (events ++ tail) ↔ Whole tail := by
  constructor
  · rintro ⟨hended, htaken, hflushed⟩
    refine ⟨?_, ?_, (getLast?_append_eq_flush_iff h).mp hflushed⟩
    · refine (List.mem_append.mp hended).resolve_left fun hmem => ?_
      cases h _ hmem
    · intro bs outcome hmem
      exact htaken bs outcome (List.mem_append_right _ hmem)
  · rintro ⟨hended, htaken, hflushed⟩
    refine ⟨List.mem_append_right _ hended, ?_, (getLast?_append_eq_flush_iff h).mpr hflushed⟩
    intro bs outcome hmem
    rcases List.mem_append.mp hmem with hmem | hmem
    · cases h _ hmem
      rfl
    · exact htaken bs outcome hmem

theorem fails_append_iff (h : ∀ e ∈ events, e.Passing) {e : Error} :
    Fails e (events ++ tail) ↔ Fails e tail := by
  constructor
  · rintro ⟨event, hmem, hfault⟩
    rcases List.mem_append.mp hmem with hmem | hmem
    · rw [(h event hmem).fault?_eq] at hfault
      cases hfault
    · exact ⟨event, hmem, hfault⟩
  · rintro ⟨event, hmem, hfault⟩
    exact ⟨event, List.mem_append_right _ hmem, hfault⟩

end Passing

/-- How a copy ends, by what its last calls have come to. -/
inductive Ending (total : Nat) : List Event → Except Error Nat → Prop
  | finished : Ending total [.read (.ok []), .flush (.ok ())] (.ok total)
  | unflushed (text : String) :
    Ending total [.read (.ok []), .flush (.error text)] (.error (.localIo text))
  | refused (bs : Bytes) (text : String) :
    Ending total [.read (.ok bs), .write bs (.error text)] (.error (.localIo text))
  | broken {fault : ReadFault} (h : fault ≠ .interrupted) :
    Ending total [.read (.error fault)] (.error (.reading fault))

namespace Ending

variable {total : Nat} {tail : List Event} {r : Except Error Nat}

theorem ok_iff (h : Ending total tail r) : (∃ n, r = .ok n) ↔ Whole tail := by
  cases h with
  | finished => exact iff_of_true ⟨total, rfl⟩ ⟨by simp, by simp, by simp⟩
  | unflushed text => exact iff_of_false (by simp) fun h => by simpa using h.flushed
  | refused bs text => exact iff_of_false (by simp) fun h => by simpa using h.flushed
  | broken => exact iff_of_false (by simp) fun h => by simpa using h.flushed

theorem fault?_reading {fault : ReadFault} (h : fault ≠ .interrupted) :
    Event.fault? (.read (.error fault)) = some (.reading fault) := by
  cases fault with
  | interrupted => exact absurd rfl h
  | failed | corrupt | withdrawn => rfl

theorem error_iff (h : Ending total tail r) (e : Error) : r = .error e ↔ Fails e tail := by
  cases h with
  | finished => simp [Fails, Event.fault?]
  | unflushed text => simp [Fails, Event.fault?]
  | refused bs text => simp [Fails, Event.fault?]
  | broken hfault => simp [Fails, fault?_reading hfault]

end Ending

/-- A copy is about to read, and has brought all that it was served to the sink. -/
structure UnderWay (p : Passage) (calls : List Call) (s : Source) (w : Sink) (total : Nat) :
    Prop where
  state_eq : (Trace.run step p calls).state = ⟨s, w⟩
  total_eq : total = (served (Trace.run step p calls).events).length
  inOrder : InOrder p calls
  owes : Owes p (Trace.run step p calls) []
  passing : ∀ e ∈ (Trace.run step p calls).events, e.Passing

theorem underWay_start (s : Source) (w : Sink) : UnderWay ⟨s, w⟩ [] s w 0 where
  state_eq := rfl
  total_eq := rfl
  inOrder := by
    intro before hbefore
    rw [List.prefix_nil.mp hbefore]
    exact ⟨[], [], rfl, (List.append_nil _).symm⟩
  owes := ⟨[], rfl, (List.append_nil _).symm⟩
  passing := by
    intro e he
    cases he

namespace UnderWay

variable {p : Passage} {calls : List Call} {s s' : Source} {w w' : Sink} {total : Nat}
  {r : Except ReadFault Bytes} {bs : Bytes} {outcome : Except String Unit}

theorem run_read (h : UnderWay p calls s w total) (hread : s.read Source.bufferSize = (r, s')) :
    Trace.run step p (calls ++ [Call.read]) =
      { state := ⟨s', w⟩, events := (Trace.run step p calls).events ++ [.read r] } := by
  rw [Trace.run_concat, next_read, h.state_eq, hread]

theorem owes_read (h : UnderWay p calls s w total) (hread : s.read Source.bufferSize = (r, s')) :
    Owes p (Trace.run step p (calls ++ [Call.read])) (Event.read r).served := by
  have howes := h.owes.next_read
  rwa [h.state_eq, hread, ← Trace.run_concat] at howes

theorem inOrder_read (h : UnderWay p calls s w total)
    (hread : s.read Source.bufferSize = (r, s')) : InOrder p (calls ++ [Call.read]) :=
  h.inOrder.concat (h.owes_read hread)

theorem run_write (h : UnderWay p calls s w total)
    (hread : s.read Source.bufferSize = (.ok bs, s')) (hwrite : w.write bs = (outcome, w')) :
    Trace.run step p (calls ++ [Call.read] ++ [Call.write bs]) =
      { state := ⟨s', w'⟩
        events := (Trace.run step p calls).events ++ [.read (.ok bs), .write bs outcome] } := by
  rw [Trace.run_concat, h.run_read hread, next_write, hwrite, List.append_assoc]
  rfl

theorem owes_write (h : UnderWay p calls s w total)
    (hread : s.read Source.bufferSize = (.ok bs, s')) (hwrite : w.write bs = (outcome, w')) :
    ∃ rest, Owes p (Trace.run step p (calls ++ [Call.read] ++ [Call.write bs])) rest ∧
      (outcome = .ok () → rest = []) := by
  obtain ⟨rest, howes, hrest⟩ := (h.owes_read hread).next_write
  refine ⟨rest, by rwa [Trace.run_concat], fun hok => hrest ?_⟩
  rw [h.run_read hread, ← hok]
  exact congrArg Prod.fst hwrite

theorem retried (h : UnderWay p calls s w total)
    (hread : s.read Source.bufferSize = (.error .interrupted, s')) :
    UnderWay p (calls ++ [Call.read]) s' w total := by
  have hrun := h.run_read hread
  constructor
  · rw [hrun]
  · rw [hrun, served_concat, Event.served, List.append_nil, h.total_eq]
  · exact h.inOrder_read hread
  · exact h.owes_read hread
  · rw [hrun, List.forall_mem_append, List.forall_mem_singleton]
    exact ⟨h.passing, .interrupted⟩

theorem copied (h : UnderWay p calls s w total) {b : UInt8}
    (hread : s.read Source.bufferSize = (.ok (b :: bs), s'))
    (hwrite : w.write (b :: bs) = (.ok (), w')) :
    UnderWay p (calls ++ [Call.read] ++ [Call.write (b :: bs)]) s' w'
      (total + (b :: bs).length) := by
  have hrun := h.run_write hread hwrite
  obtain ⟨rest, howes, hrest⟩ := h.owes_write hread hwrite
  obtain rfl := hrest rfl
  constructor
  · rw [hrun]
  · rw [hrun, h.total_eq]
    simp [served, Event.served]
  · exact (h.inOrder_read hread).concat howes
  · exact howes
  · rw [hrun, List.forall_mem_append, List.forall_mem_cons, List.forall_mem_singleton]
    exact ⟨h.passing, .served b bs, .taken (b :: bs)⟩

/-- The last calls of a copy settle its account: those before them neither ended it nor failed. -/
theorem accounted (h : UnderWay p calls s w total) {calls' : List Call} {tail : List Event}
    {q : Passage} {result : Except Error Nat}
    (hrun : Trace.run step p calls' =
      { state := q, events := (Trace.run step p calls).events ++ tail })
    (hends : Ending total tail result) (horder : InOrder p calls')
    (hwritten : (∀ text, result ≠ .error (.localIo text)) → Owes p (Trace.run step p calls') [])
    (hoctets : ∀ n, result = .ok n → q.source.octets = []) :
    Accounted p calls' (result, q.sink) := by
  constructor
  · rw [hrun]
  · intro before hbefore
    obtain ⟨owed, taken, hserved, htaken⟩ := horder before hbefore
    exact ⟨taken, ⟨owed, hserved.symm⟩, htaken⟩
  · rw [hrun, whole_append_iff h.passing]
    exact hends.ok_iff
  · rintro n rfl
    -- Nothing is left of the source, so all of it was served.
    have hall := octets_eq_of_run p calls'
    rw [hrun, hoctets n rfl, List.append_nil] at hall
    refine ⟨?_, by rw [hrun, hall]⟩
    cases hends with
    | finished =>
      rw [hrun, h.total_eq]
      simp [served, Event.served]
  · intro e
    rw [hrun, fails_append_iff h.passing]
    exact hends.error_iff e
  · intro hnet
    have hbytes := (hwritten hnet).toBytes_eq
    rwa [hrun] at hbytes ⊢

theorem accounted_flush (h : UnderWay p calls s w total)
    (hread : s.read Source.bufferSize = (.ok [], s')) {result : Except Error Nat}
    (hends : Ending total [.read (.ok []), .flush w.flush] result) :
    Accounted p (calls ++ [Call.read] ++ [Call.flush]) (result, w) := by
  have hrun : Trace.run step p (calls ++ [Call.read] ++ [Call.flush]) =
      { state := ⟨s', w⟩
        events := (Trace.run step p calls).events ++ [.read (.ok []), .flush w.flush] } := by
    rw [Trace.run_concat, h.run_read hread, next_flush, List.append_assoc]
    rfl
  have howes := (h.owes_read hread).next_flush
  rw [← Trace.run_concat] at howes
  refine h.accounted hrun hends ((h.inOrder_read hread).concat howes) ?_ ?_
  · intro _
    exact howes
  · intro n hn
    obtain ⟨hoctets, hnil, -⟩ := Source.octets_of_read (by decide) hread
    rw [hnil rfl] at hoctets
    exact hoctets.symm

theorem accounted_refused (h : UnderWay p calls s w total)
    (hread : s.read Source.bufferSize = (.ok bs, s')) {text : String}
    (hwrite : w.write bs = (.error text, w')) :
    Accounted p (calls ++ [Call.read] ++ [Call.write bs]) (.error (.localIo text), w') := by
  obtain ⟨rest, howes, -⟩ := h.owes_write hread hwrite
  refine h.accounted (h.run_write hread hwrite) (.refused bs text)
    ((h.inOrder_read hread).concat howes) ?_ ?_
  · intro hnet
    exact absurd rfl (hnet text)
  · intro n hn
    cases hn

theorem accounted_broken (h : UnderWay p calls s w total) {fault : ReadFault}
    (hfault : fault ≠ .interrupted) (hread : s.read Source.bufferSize = (.error fault, s')) :
    Accounted p (calls ++ [Call.read]) (.error (.reading fault), w) := by
  refine h.accounted (h.run_read hread) (.broken hfault) (h.inOrder_read hread) ?_ ?_
  · intro _
    exact h.owes_read hread
  · intro n hn
    cases hn

end UnderWay

theorem exists_accounted {p : Passage} {calls : List Call} {s : Source} {w : Sink} {total : Nat}
    (h : UnderWay p calls s w total) : ∃ calls', Accounted p calls' (s.drain w total) := by
  -- Each round leads from one moment under way to the next, with the calls made so far.
  fun_induction Source.drain s w total generalizing calls with
  | case1 s w total s' hread hflush =>
    exact ⟨_, h.accounted_flush hread (hflush ▸ .finished)⟩
  | case2 s w total s' hread text hflush =>
    exact ⟨_, h.accounted_flush hread (hflush ▸ .unflushed text)⟩
  | case3 s w total b bs s' hread w' hwrite ih => exact ih (h.copied hread hwrite)
  | case4 s w total b bs s' hread text w' hwrite => exact ⟨_, h.accounted_refused hread hwrite⟩
  | case5 s w total s' hread ih => exact ih (h.retried hread)
  | case6 s w total fault s' hfault hread => exact ⟨_, h.accounted_broken hfault hread⟩

end Passage

/-- A copy loses and repeats nothing, and puts a failure down to the side that has failed. -/
theorem Source.drainInto_accounted (s : Source) (w : Sink) :
    ∃ calls, Passage.Accounted ⟨s, w⟩ calls (s.drainInto w) :=
  Passage.exists_accounted (Passage.underWay_start s w)

end RemoteSql
