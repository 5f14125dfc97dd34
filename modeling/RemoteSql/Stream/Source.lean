import RemoteSql.Bytes
import RemoteSql.Error

/-!
# Sources of octets

A source is what the network or a caller will deliver, in order: octets, reads that are broken off
and may be tried again, and a failure that lasts. A read takes octets up to the size of the buffer
and up to a limit of the source's own, which may differ from place to place; it never reads past a
fault. A read that yields no octets is the end.
-/

namespace RemoteSql

/-- One thing that a source delivers. -/
inductive Delivery
  | octet (b : UInt8)
  | interruption
  | failure (text : String)
  deriving DecidableEq, Repr

structure Source where
  /-- What is still to come. -/
  pending : List Delivery
  /-- How many octets have been read. -/
  served : Nat := 0
  /-- The most octets that one read yields, by the number already served; at least one. -/
  limit : Nat → Option Nat := fun _ => none

namespace Source

/-- Takes octets from the head, at most a given number, with those taken so far in reverse. -/
def takeOctets : Nat → List Delivery → Bytes → Bytes × List Delivery
  | n + 1, .octet b :: rest, done => takeOctets n rest (b :: done)
  | _, ds, done => (done.reverse, ds)

/-- How many octets a read into a buffer of a given size may yield. -/
def capacity (s : Source) (size : Nat) : Nat :=
  match s.limit s.served with
  | none => size
  | some n => min size (max 1 n)

/-- One read into a buffer of a given size. -/
def read (s : Source) (size : Nat) : Except ReadFault Bytes × Source :=
  match s.pending with
  | .interruption :: rest => (.error .interrupted, { s with pending := rest })
  | .failure text :: _ => (.error (.failed text), s)
  | ds =>
    let (bs, rest) := takeOctets (s.capacity size) ds []
    (.ok bs, { s with pending := rest, served := s.served + bs.length })

theorem takeOctets_length (n : Nat) (ds : List Delivery) (done : Bytes) :
    (takeOctets n ds done).1.length + (takeOctets n ds done).2.length =
      done.length + ds.length := by
  induction n generalizing ds done with
  | zero => simp [takeOctets]
  | succ n ih =>
    match ds with
    | [] | .interruption :: _ | .failure _ :: _ => simp [takeOctets]
    | .octet b :: rest => simp [takeOctets, ih]; omega

/-- A read that was interrupted, or yielded octets, leaves less to come. -/
theorem read_lt {s s' : Source} {size : Nat} {r : Except ReadFault Bytes}
    (h : s.read size = (r, s')) (hr : r = .error .interrupted ∨ ∃ b bs, r = .ok (b :: bs)) :
    s'.pending.length < s.pending.length := by
  unfold read at h
  split at h
  · next rest heq =>
    simp only [Prod.mk.injEq] at h
    simp [← h.2, heq]
  · simp only [Prod.mk.injEq] at h
    rcases hr with rfl | ⟨b, bs, rfl⟩ <;> simp at h
  · simp only [Prod.mk.injEq] at h
    obtain ⟨rfl, rfl⟩ := h
    rcases hr with hr | ⟨b, bs, hr⟩
    · simp at hr
    · have hl := takeOctets_length (s.capacity size) s.pending []
      simp only [Except.ok.injEq] at hr
      rw [hr] at hl
      simp at hl ⊢
      omega

def ofBytes (bs : Bytes) : Source where
  pending := bs.map .octet

/-- A source of the given octets that is interrupted once after some of them, fails after some of
them, and yields at most `limit` octets a read. A fault past the end never comes; of two at one
place the interruption comes first. -/
def faulty (bs : Bytes) (interruptAt failAfter : Option Nat) (failText : String)
    (limit : Option Nat) : Source where
  pending :=
    let octets := fun bs : Bytes => bs.map Delivery.octet
    let (reached, last) := match failAfter with
      | some n => if n ≤ bs.length then (bs.take n, [Delivery.failure failText]) else (bs, [])
      | none => (bs, [])
    match interruptAt with
    | some n =>
      if n ≤ reached.length then
        octets (reached.take n) ++ .interruption :: octets (reached.drop n) ++ last
      else octets reached ++ last
    | none => octets reached ++ last
  limit := fun _ => limit

end Source

end RemoteSql
