import Mathlib
import RemoteSql.Proofs.Stream.Delivery

/-!
# Copying octet by octet

A sink that takes octets as long as it has room does not see how they are grouped into writes. Then
a copy can be told octet by octet from what the source delivers, and neither the size of its buffer
nor the pieces in which the source is read make a difference.
-/

namespace RemoteSql

namespace Sink

/-- The sink takes all that it is given, or all until it holds so many octets. -/
def Filling (w : Sink) : Prop :=
  (∀ held size, w.takes held size = size) ∨
    ∃ limit, ∀ held size, w.takes held size = min size (limit - held)

theorem takes_write (w : Sink) (bs : Bytes) : (w.write bs).2.takes = w.takes := by
  unfold write
  dsimp only
  split <;> rfl

theorem Filling.write {w : Sink} (h : w.Filling) (bs : Bytes) : (w.write bs).2.Filling := by
  rw [Filling, takes_write]
  exact h

theorem write_nil (w : Sink) : w.write [] = (.ok (), w) := by
  simp [write]

/-- Whether there is room for one more octet decides what becomes of the rest. -/
theorem Filling.takes_succ {w : Sink} (h : w.Filling) (held size : Nat) :
    w.takes held 1 = 0 ∧ w.takes held (size + 1) = 0 ∨
      w.takes held 1 = 1 ∧ w.takes held (size + 1) = w.takes (held + 1) size + 1 := by
  rcases h with h | ⟨limit, h⟩
  · simp [h]
  · simp only [h]
    omega

theorem Filling.write_cons {w : Sink} (h : w.Filling) (b : UInt8) (bs : Bytes) :
    w.write (b :: bs) = match w.write [b] with
      | (.ok (), w') => w'.write bs
      | (.error text, w') => (.error text, w') := by
  rcases h.takes_succ w.held.size bs.length with ⟨hone, htakes⟩ | ⟨hone, htakes⟩
  · simp [Sink.write, hone, htakes]
  · simp [Sink.write, hone, htakes]

end Sink

/-- Copies what a source delivers, one octet after the other. -/
def copyOctets (retry : Bool) : List Delivery → Sink → Nat → Except Error Nat × Sink
  | [], w, total =>
    match w.flush with
    | .ok () => (.ok total, w)
    | .error text => (.error (.localIo text), w)
  | .octet b :: ds, w, total =>
    match w.write [b] with
    | (.ok (), w) => copyOctets retry ds w (total + 1)
    | (.error text, w) => (.error (.localIo text), w)
  | .interruption :: ds, w, total =>
    if retry then copyOctets retry ds w total else (.error (.reading .interrupted), w)
  | .failure text :: _, w, _ => (.error (.reading (.failed text)), w)

/-- Octets that come one after the other are copied in one write. -/
theorem copyOctets_append {w : Sink} (hw : w.Filling) (retry : Bool) (bs : Bytes)
    (ds : List Delivery) (total : Nat) :
    copyOctets retry (bs.map .octet ++ ds) w total = match w.write bs with
      | (.ok (), w') => copyOctets retry ds w' (total + bs.length)
      | (.error text, w') => (.error (.localIo text), w') := by
  induction bs generalizing w total with
  | nil => rw [Sink.write_nil]; rfl
  | cons b bs ih =>
    have hfilling := hw.write [b]
    rw [hw.write_cons, List.map_cons, List.cons_append, copyOctets]
    rcases hwrite : w.write [b] with ⟨text | _, w'⟩
    · rfl
    · rw [hwrite] at hfilling
      dsimp only
      rw [ih hfilling, List.length_cons, Nat.add_assoc, Nat.add_comm 1]

namespace Source

theorem bufferSize_pos : 0 < bufferSize := by decide

theorem drain_eq_copyOctets {s : Source} {w : Sink} (hw : w.Filling) (total : Nat) :
    s.drain w total = copyOctets true s.pending w total := by
  fun_induction drain s w total with
  | case1 s w total s' hread hflush | case2 s w total s' hread text hflush =>
    cases readCase_of_read bufferSize_pos hread with
    | ended hpending => rw [hpending, copyOctets, hflush]
  | case3 s w total b bs s' hread w' hwrite ih =>
    cases readCase_of_read bufferSize_pos hread with
    | served hpending =>
      have hfilling := hw.write (b :: bs)
      rw [hwrite] at hfilling
      rw [ih hfilling, hpending, copyOctets_append hw, hwrite]
  | case4 s w total b bs s' hread text w' hwrite =>
    cases readCase_of_read bufferSize_pos hread with
    | served hpending => rw [hpending, copyOctets_append hw, hwrite]
  | case5 s w total s' hread ih =>
    cases readCase_of_read bufferSize_pos hread with
    | interrupted hpending => rw [ih hw, hpending, copyOctets, if_pos rfl]
  | case6 s w total fault s' hfault hread =>
    cases readCase_of_read bufferSize_pos hread with
    | interrupted hpending => exact absurd rfl hfault
    | failed hpending => rw [hpending, copyOctets]

end Source

end RemoteSql
