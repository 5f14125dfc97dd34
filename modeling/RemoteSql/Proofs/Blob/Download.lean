import Mathlib
import RemoteSql.Blob.Download
import RemoteSql.Proofs.Stream.Delivery

/-!
# What a copy writes of a download

A copy goes round by round: it looks whether it was cancelled, reads, writes what it has read and
counts it. Between two rounds the sink holds the front of the body that the progress counts. The copy
ends with the body, or at the first look that finds it cancelled, and then nothing more is written.
-/

namespace RemoteSql

namespace Source

/-- No read fails, nor is one broken off. -/
def Steady (s : Source) : Prop := ∀ d ∈ s.pending, ∃ b, d = .octet b

theorem Steady.read {s s' : Source} {size : Nat} {r : Except ReadFault Bytes} (hs : s.Steady)
    (hsize : 0 < size) (h : s.read size = (r, s')) :
    s'.Steady ∧ ∃ bs, r = .ok bs ∧ s.octets = bs ++ s'.octets ∧ (bs = [] → s.octets = []) := by
  rcases r with fault | bs
  · unfold Source.read at h
    split at h
    · next rest heq =>
      obtain ⟨b, hb⟩ := hs .interruption (by simp [heq])
      cases hb
    · next text rest heq =>
      obtain ⟨b, hb⟩ := hs (.failure text) (by simp [heq])
      cases hb
    · cases h
  · obtain ⟨hoctets, hnil, -⟩ := octets_of_read hsize h
    refine ⟨?_, bs, rfl, hoctets, hnil⟩
    intro d hd
    apply hs d
    rw [pending_of_read h]
    exact List.mem_append_right _ hd

end Source

namespace Sink

/-- Every write is taken whole, and flushing does not fail. -/
structure Accepting (w : Sink) : Prop where
  takes : ∀ held size, size ≤ w.takes held size
  flushFault : w.flushFault = none

theorem Accepting.write {w : Sink} (h : w.Accepting) (bs : Bytes) :
    w.write bs = (.ok (), { w with held := w.held ++ bs }) :=
  if_pos (h.takes w.held.size bs.length)

end Sink

namespace Copy

/-- Where a copy stands when it looks whether it was cancelled. -/
structure Checkpoint where
  copy : Copy
  source : Source
  written : Nat

/-- One round, in which octets were read and written. -/
inductive Turn : Checkpoint → Checkpoint → Prop
  | turn {c c' : Copy} {s s' : Source} {b : UInt8} {bs : Bytes} (written : Nat)
    (hgoing : c.isCancelled = false) (hread : s.read chunkSize = (.ok (b :: bs), s'))
    (hput : c.put (b :: bs) = (.ok (), c')) :
    Turn ⟨c, s, written⟩ ⟨c', s', written + (b :: bs).length⟩

def Reaches (c : Copy) (body : Source) : Checkpoint → Prop :=
  Relation.ReflTransGen Turn ⟨c, body, 0⟩

def Checkpoint.rest (x : Checkpoint) : Except Error Nat × Copy := x.copy.fill x.source x.written

/-- The progress after a write. The caller may cancel before the octets are counted. -/
def noted (c : Copy) (held : Nat) (bs : Bytes) (p : Progress) : Progress :=
  (if c.cancels held then p.cancel else p).record (UInt64.ofNat bs.length)

theorem transferred_noted (c : Copy) (held : Nat) (bs : Bytes) (p : Progress) :
    (c.noted held bs p).transferred = p.transferred + UInt64.ofNat bs.length := by
  unfold noted
  split <;> rfl

theorem put_of_accepting {c : Copy} (h : c.sink.Accepting) (bs : Bytes) :
    c.put bs = (.ok (), { c with
      sink := { c.sink with held := c.sink.held ++ bs }
      progress := c.progress.map (c.noted (c.sink.held ++ bs).size bs) }) := by
  unfold put
  rw [h.write]
  rfl

theorem rest_of_turn {x y : Checkpoint} (h : Turn x y) : x.rest = y.rest := by
  cases h with
  | turn written hgoing hread hput =>
    unfold Checkpoint.rest
    conv_lhs => unfold fill
    rw [if_neg (by simp [hgoing])]
    split
    · next heq => simp [hread] at heq
    · next heq => simp [hread] at heq
    · next heq =>
      rw [hread] at heq
      cases heq
      rw [hput]

theorem rest_of_reaches {c : Copy} {body : Source} {x : Checkpoint} (h : c.Reaches body x) :
    c.fill body 0 = x.rest := by
  induction h with
  | refl => rfl
  | tail _ hturn ih => rw [ih, rest_of_turn hturn]

theorem rest_of_cancelled {x : Checkpoint} (h : x.copy.isCancelled = true) :
    x.rest = (.error .cancelled, x.copy) := by
  unfold Checkpoint.rest fill
  exact if_pos h

/-- The sink has got so many octets of the body, and the progress counts them. -/
structure Tally (held body : Bytes) (c : Copy) (n : Nat) : Prop where
  le_length : n ≤ body.length
  sink_eq : c.sink.toBytes = held ++ body.take n
  transferred_eq : ∃ p, c.progress = some p ∧ p.transferred = UInt64.ofNat n

structure Balanced (held body : Bytes) (x : Checkpoint) : Prop where
  steady : x.source.Steady
  accepting : x.copy.sink.Accepting
  octets_eq : x.source.octets = body.drop x.written
  tally : Tally held body x.copy x.written

theorem Balanced.turn {held body : Bytes} {x y : Checkpoint} (h : Balanced held body x)
    (hturn : Turn x y) : Balanced held body y := by
  obtain ⟨hsteady, haccepting, hdrop, hle, hsink, p, hp, htransferred⟩ := h
  cases hturn with
  | @turn c c' s s' b bs written hgoing hread hput =>
    obtain ⟨hsteady', bs', hbs, hoctets, -⟩ := hsteady.read (by decide) hread
    obtain rfl : b :: bs = bs' := Except.ok.inj hbs
    rw [put_of_accepting haccepting] at hput
    obtain ⟨-, rfl⟩ := Prod.mk.inj hput
    have hsplit : body.drop written = b :: bs ++ s'.octets := hdrop.symm.trans hoctets
    have htake : body.take (written + (b :: bs).length) = body.take written ++ b :: bs := by
      rw [List.take_add, hsplit, List.take_left]
    have hlength := congrArg List.length hsplit
    rw [List.length_drop, List.length_append] at hlength
    refine ⟨hsteady', ⟨haccepting.takes, haccepting.flushFault⟩, ?_, ?_, ?_, ?_⟩
    · rw [← List.drop_drop, hsplit, List.drop_left]
    · have hpos : 0 < (b :: bs).length := Nat.succ_pos _
      change written + (b :: bs).length ≤ body.length
      omega
    · have hheld : c.sink.held.toList = held ++ body.take written := hsink
      change (c.sink.held ++ b :: bs).toList = _
      rw [htake, Array.toList_appendList, hheld, List.append_assoc]
    · refine ⟨_, by rw [hp, Option.map_some], ?_⟩
      rw [transferred_noted, htransferred, UInt64.ofNat_add]

theorem balanced_of_reaches {c : Copy} {body : Source} (hbody : body.Steady)
    (hsink : c.sink.Accepting) {p : Progress} (hp : c.progress = some p) (hzero : p.transferred = 0)
    {x : Checkpoint} (h : c.Reaches body x) : Balanced c.sink.toBytes body.octets x := by
  induction h with
  | refl =>
    refine ⟨hbody, hsink, rfl, Nat.zero_le _, ?_, p, hp, hzero⟩
    rw [List.take_zero, List.append_nil]
  | tail _ hturn ih => exact ih.turn hturn

/-- How the last look of a copy ends it. -/
inductive Ends (x : Checkpoint) : Except Error Nat × Copy → Prop
  | cancelled (h : x.copy.isCancelled = true) : Ends x (.error .cancelled, x.copy)
  | complete (h : x.copy.isCancelled = false) (hend : x.source.octets = []) :
    Ends x (.ok x.written, { x.copy with progress := x.copy.progress.map Progress.complete })

/-- From any checkpoint some rounds lead to a last one. -/
theorem exists_end (c : Copy) (s : Source) (written : Nat) (hs : s.Steady)
    (hsink : c.sink.Accepting) :
    ∃ x, Relation.ReflTransGen Turn ⟨c, s, written⟩ x ∧ Ends x (c.fill s written) := by
  fun_induction fill c s written with
  | case1 c s written hcancelled =>
    exact ⟨_, .refl, .cancelled hcancelled⟩
  | case2 c s written hgoing fault s' hread =>
    obtain ⟨-, bs, hbs, -⟩ := hs.read (by decide) hread
    cases hbs
  | case3 c s written hgoing s' hread =>
    obtain ⟨-, bs, hbs, -, hnil⟩ := hs.read (by decide) hread
    have hfinish : c.finish written =
        (.ok written, { c with progress := c.progress.map Progress.complete }) := by
      rw [finish, Sink.flush, hsink.flushFault]
    rw [hfinish]
    exact ⟨_, .refl, .complete (by simpa using hgoing) (hnil (Except.ok.inj hbs).symm)⟩
  | case4 c s written hgoing b bs s' hread e c' hput =>
    rw [put_of_accepting hsink] at hput
    cases hput
  | case5 c s written hgoing b bs s' hread c' hput ih =>
    obtain ⟨hs', -⟩ := hs.read (by decide) hread
    have hsink' : c'.sink.Accepting := by
      rw [put_of_accepting hsink] at hput
      obtain ⟨-, rfl⟩ := Prod.mk.inj hput
      exact ⟨hsink.takes, hsink.flushFault⟩
    obtain ⟨x, hreaches, hends⟩ := ih hs' hsink'
    exact ⟨x, .head (.turn written (by simpa using hgoing) hread hput) hreaches, hends⟩

/-- The account of a whole copy: the sink and the progress agree at every look and in the end, and
the copy is whole exactly if no look found it cancelled. -/
structure Accounted (c : Copy) (body : Source) (r : Except Error Nat) (c' : Copy) : Prop where
  checkpoint : ∀ x, c.Reaches body x → Tally c.sink.toBytes body.octets x.copy x.written
  exit : ∃ n, Tally c.sink.toBytes body.octets c' n
  ok_iff : (∃ n, r = .ok n) ↔
    (∃ x, c.Reaches body x ∧ x.source.octets = []) ∧
      ∀ x, c.Reaches body x → x.copy.isCancelled = false
  whole : ∀ n, r = .ok n →
    n = body.octets.length ∧ Tally c.sink.toBytes body.octets c' body.octets.length
  cancelled : (¬∃ n, r = .ok n) → r = .error .cancelled
  seen : ∀ x, c.Reaches body x → x.copy.isCancelled = true → c' = x.copy

theorem Tally.complete {held body : Bytes} {c : Copy} {n : Nat} (h : Tally held body c n) :
    Tally held body { c with progress := c.progress.map Progress.complete } n := by
  obtain ⟨hle, hsink, p, hp, htransferred⟩ := h
  refine ⟨hle, hsink, p.complete, ?_, htransferred⟩
  rw [hp, Option.map_some]

theorem accounted {c : Copy} {body : Source} {p : Progress} (hbody : body.Steady)
    (hsink : c.sink.Accepting) (hp : c.progress = some p) (hzero : p.transferred = 0) :
    c.Accounted body (c.fill body 0).1 (c.fill body 0).2 := by
  obtain ⟨last, hlast, hends⟩ := exists_end c body 0 hbody hsink
  have hbalanced : ∀ x, c.Reaches body x → Balanced c.sink.toBytes body.octets x :=
    fun x hx => balanced_of_reaches hbody hsink hp hzero hx
  have hseen : ∀ x, c.Reaches body x → x.copy.isCancelled = true →
      c.fill body 0 = (.error .cancelled, x.copy) :=
    fun x hx hcancelled => (rest_of_reaches hx).trans (rest_of_cancelled hcancelled)
  have htally := (hbalanced last hlast).tally
  generalize hfill : c.fill body 0 = out at hends hseen ⊢
  cases hends with
  | cancelled hflag =>
    constructor
    · exact fun x hx => (hbalanced x hx).tally
    · exact ⟨_, htally⟩
    · constructor
      · rintro ⟨n, hn⟩
        cases hn
      · rintro ⟨-, hgoing⟩
        rw [hgoing last hlast] at hflag
        cases hflag
    · intro n hn
      cases hn
    · exact fun _ => rfl
    · intro x hx hcancelled
      exact (Prod.mk.inj (hseen x hx hcancelled)).2
  | complete hflag hend =>
    have hwritten : last.written = body.octets.length := by
      have hnil := (hbalanced last hlast).octets_eq.symm.trans hend
      have hle := htally.le_length
      rw [List.drop_eq_nil_iff] at hnil
      omega
    constructor
    · exact fun x hx => (hbalanced x hx).tally
    · exact ⟨_, htally.complete⟩
    · refine ⟨fun _ => ⟨⟨last, hlast, hend⟩, ?_⟩, fun _ => ⟨_, rfl⟩⟩
      intro x hx
      by_contra hcancelled
      rw [Bool.not_eq_false] at hcancelled
      cases (Prod.mk.inj (hseen x hx hcancelled)).1
    · intro n hn
      obtain rfl : last.written = n := Except.ok.inj hn
      exact ⟨hwritten, hwritten ▸ htally.complete⟩
    · intro hne
      exact (hne ⟨_, rfl⟩).elim
    · intro x hx hcancelled
      cases (Prod.mk.inj (hseen x hx hcancelled)).1

end Copy

end RemoteSql
