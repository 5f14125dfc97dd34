import Mathlib
import RemoteSql.Gzip.Plain

/-!
# What a source delivers

A source that never fails for good delivers its octets in order, in whatever pieces they are read
and however often a read is broken off. If they do not begin as a gzip member does, they are what
is made of the source.
-/

namespace RemoteSql

def Delivery.octet? : Delivery → Option UInt8
  | .octet b => some b
  | _ => none

namespace Source

def octets (s : Source) : Bytes := s.pending.filterMap Delivery.octet?

def Unfailing (s : Source) : Prop := ∀ text, Delivery.failure text ∉ s.pending

theorem takeOctets_spec (n : Nat) (ds : List Delivery) (done : Bytes) :
    ∃ bs, ds = bs.map Delivery.octet ++ (takeOctets n ds done).2 ∧
      (takeOctets n ds done).1 = done.reverse ++ bs := by
  induction n generalizing ds done with
  | zero => exact ⟨[], by simp [takeOctets]⟩
  | succ n ih =>
    cases ds with
    | nil => exact ⟨[], by simp [takeOctets]⟩
    | cons d rest =>
      cases d with
      | interruption | failure => exact ⟨[], by simp [takeOctets]⟩
      | octet b =>
        obtain ⟨bs, hrest, hdone⟩ := ih rest (b :: done)
        refine ⟨b :: bs, ?_, ?_⟩
        · rw [List.map_cons, List.cons_append, takeOctets, ← hrest]
        · rw [takeOctets, hdone, List.reverse_cons, List.append_assoc, List.singleton_append]

theorem capacity_pos (s : Source) {size : Nat} (h : 0 < size) : 0 < s.capacity size := by
  unfold capacity
  split
  · exact h
  · omega

/-- A read takes the octets that it yields from the head of what is to come. -/
theorem pending_of_read {s s' : Source} {size : Nat} {bs : Bytes}
    (h : s.read size = (.ok bs, s')) : s.pending = bs.map Delivery.octet ++ s'.pending := by
  unfold read at h
  split at h
  · cases h
  · cases h
  · obtain ⟨out, hpending, hout⟩ := takeOctets_spec (s.capacity size) s.pending []
    obtain ⟨htaken, rfl⟩ := Prod.mk.inj h
    rw [List.reverse_nil, List.nil_append] at hout
    rw [hout, Except.ok.injEq] at htaken
    exact htaken ▸ hpending

theorem octets_eq_of_read {s s' : Source} {size : Nat} {bs : Bytes}
    (h : s.read size = (.ok bs, s')) : s.octets = bs ++ s'.octets := by
  have hall : (bs.map Delivery.octet).filterMap Delivery.octet? = bs := by
    simp [List.filterMap_map, Function.comp_def, Delivery.octet?]
  rw [octets, octets, pending_of_read h, List.filterMap_append, hall]

theorem octets_eq_of_fault {s s' : Source} {size : Nat} {fault : ReadFault}
    (h : s.read size = (.error fault, s')) : s'.octets = s.octets := by
  unfold read at h
  split at h
  · next rest heq =>
    obtain ⟨-, rfl⟩ := Prod.mk.inj h
    rw [octets, octets, heq]
    rfl
  · obtain ⟨-, rfl⟩ := Prod.mk.inj h
    rfl
  · cases h

/-- What one read comes to, and what is left to come. -/
inductive ReadCase (s : Source) : Except ReadFault Bytes × Source → Prop
  | ended {s' : Source} (h : s.pending = []) : ReadCase s (.ok [], s')
  | served {b : UInt8} {bs : Bytes} {s' : Source}
    (h : s.pending = (b :: bs).map Delivery.octet ++ s'.pending) : ReadCase s (.ok (b :: bs), s')
  | interrupted {s' : Source} (h : s.pending = .interruption :: s'.pending) :
    ReadCase s (.error .interrupted, s')
  | failed {text : String} {rest : List Delivery} (h : s.pending = .failure text :: rest) :
    ReadCase s (.error (.failed text), s)

theorem readCase_of_read {s : Source} {size : Nat} {out : Except ReadFault Bytes × Source}
    (hsize : 0 < size) (hread : s.read size = out) : ReadCase s out := by
  rcases out with ⟨fault | bs, s'⟩
  · unfold read at hread
    split at hread
    · next rest heq =>
      cases hread
      exact .interrupted heq
    · next text rest heq =>
      cases hread
      exact .failed heq
    · cases hread
  · cases bs with
    | cons b bs => exact .served (pending_of_read hread)
    | nil =>
      unfold read at hread
      split at hread
      · cases hread
      · cases hread
      · next hint hfail =>
        obtain ⟨k, hk⟩ : ∃ k, s.capacity size = k + 1 :=
          ⟨s.capacity size - 1, by have := s.capacity_pos hsize; omega⟩
        -- Nothing was taken although there was room, so no octet stands at the head.
        cases hp : s.pending with
        | nil => exact .ended hp
        | cons d rest =>
          cases d with
          | interruption => exact absurd hp (hint rest)
          | failure text => exact absurd hp (hfail text rest)
          | octet b =>
            obtain ⟨bs, -, hdone⟩ := takeOctets_spec k rest [b]
            obtain ⟨htaken, -⟩ := Prod.mk.inj hread
            rw [hp, hk, takeOctets, hdone] at htaken
            simp at htaken

/-- A read yields the octets that come next, and none only at the end. -/
theorem octets_of_read {s s' : Source} {size : Nat} {bs : Bytes} (hsize : 0 < size)
    (h : s.read size = (.ok bs, s')) :
    s.octets = bs ++ s'.octets ∧ (bs = [] → s.octets = []) ∧ (s.Unfailing → s'.Unfailing) := by
  refine ⟨octets_eq_of_read h, ?_, ?_⟩
  · rintro rfl
    cases readCase_of_read hsize h with
    | ended hpending => rw [octets, hpending, List.filterMap_nil]
  · intro hs text hmem
    exact hs text (by rw [pending_of_read h]; exact List.mem_append_right _ hmem)

theorem octets_of_interrupted {s s' : Source} {size : Nat}
    (h : s.read size = (.error .interrupted, s')) :
    s.pending.head? = some .interruption ∧ s.octets = s'.octets ∧
      (s.Unfailing → s'.Unfailing) := by
  unfold read at h
  split at h
  · next rest heq =>
    obtain ⟨-, rfl⟩ := Prod.mk.inj h
    refine ⟨by simp [heq], ?_, fun hs text hmem => hs text (by simp [heq, hmem])⟩
    rw [octets, octets, heq]
    rfl
  · cases h
  · cases h

theorem Unfailing.eq_interrupted {s s' : Source} {size : Nat} {fault : ReadFault}
    (hs : s.Unfailing) (h : s.read size = (.error fault, s')) : fault = .interrupted := by
  unfold read at h
  split at h
  · cases h
    rfl
  · next text rest heq => exact absurd (by simp [heq]) (hs text)
  · cases h

/-- Reading to the end without a failure gathers all octets. -/
theorem gather_of_none {s : Source} {done : Array UInt8} (h : (s.gather done).2 = none) :
    (s.gather done).1 = done.toList ++ s.octets := by
  fun_induction gather s done with
  | case1 s done s' hread =>
    obtain ⟨-, hnil, -⟩ := octets_of_read (by decide) hread
    rw [hnil rfl, List.append_nil]
  | case2 s done b bs s' hread ih =>
    obtain ⟨hoctets, -⟩ := octets_of_read (by decide) hread
    rw [ih h, hoctets]
    simp
  | case3 s done s' hread ih =>
    obtain ⟨-, hoctets, -⟩ := octets_of_interrupted hread
    rw [ih h, hoctets]
  | case4 s done fault s' hne hread => cases h

theorem gather_snd {s : Source} (hs : s.Unfailing) (done : Array UInt8) :
    (s.gather done).2 = none := by
  fun_induction gather s done with
  | case1 s done s' hread => rfl
  | case2 s done b bs s' hread ih =>
    obtain ⟨-, -, hs'⟩ := octets_of_read (by decide) hread
    exact ih (hs' hs)
  | case3 s done s' hread ih =>
    obtain ⟨-, -, hs'⟩ := octets_of_interrupted hread
    exact ih (hs' hs)
  | case4 s done fault s' hne hread => exact (hne (hs.eq_interrupted hread)).elim

/-- What begins as no gzip member does begins so in the first read as well. -/
theorem isGzip_of_append {bs bs' : Bytes} (h : Gzip.isGzip (bs ++ bs') = false) :
    Gzip.isGzip bs = false := by
  rcases bs with - | ⟨a, - | ⟨b, bs⟩⟩
  · rfl
  · rfl
  · simpa [Gzip.isGzip] using h

/-- What is made of a source whose octets do not begin as a gzip member does is these octets. -/
theorem eq_octets_of_plain {s : Source} (hgzip : Gzip.isGzip s.octets = false) {bs : Bytes}
    (h : s.plain = .ok bs) : bs = s.octets := by
  unfold plain at h
  split at h
  · cases h
  · next first s' hread =>
    obtain ⟨hoctets, -⟩ := octets_of_read (by decide) hread
    have hfirst : Gzip.isGzip first = false := isGzip_of_append (hoctets ▸ hgzip)
    rcases hgather : s'.gather first.toArray with ⟨out, fault?⟩
    simp only [hgather, hfirst, Bool.false_eq_true, if_false] at h
    cases fault? with
    | none =>
      cases h
      have hall := gather_of_none (congrArg Prod.snd hgather)
      rw [hgather] at hall
      exact hall.trans hoctets.symm
    | some fault => cases h

/-- A source that begins unbroken and never fails for good gives its octets as they are. -/
theorem plain_eq {s : Source} (hs : s.Unfailing) (hhead : s.pending.head? ≠ some .interruption)
    (hgzip : Gzip.isGzip s.octets = false) : s.plain = .ok s.octets := by
  unfold plain
  split
  · next fault s' hread =>
    obtain rfl := hs.eq_interrupted hread
    exact absurd (octets_of_interrupted hread).1 hhead
  · next first s' hread =>
    obtain ⟨hoctets, -, hs'⟩ := octets_of_read (by decide) hread
    have hfirst : Gzip.isGzip first = false := isGzip_of_append (hoctets ▸ hgzip)
    have hnone := gather_snd (hs' hs) first.toArray
    have hall := gather_of_none hnone
    rcases hgather : s'.gather first.toArray with ⟨out, fault?⟩
    rw [hgather] at hnone hall
    dsimp only at hnone hall
    simp only [hfirst, Bool.false_eq_true, if_false]
    rw [hnone, hall, hoctets]

section OfBytes

variable (bs : Bytes)

@[simp] theorem octets_ofBytes : (ofBytes bs).octets = bs := by
  simp [octets, ofBytes, List.filterMap_map, Function.comp_def, Delivery.octet?]

theorem unfailing_ofBytes : (ofBytes bs).Unfailing := by
  simp [Unfailing, ofBytes]

theorem head?_ofBytes : (ofBytes bs).pending.head? ≠ some .interruption := by
  cases bs <;> simp [ofBytes]

end OfBytes

end Source

end RemoteSql
