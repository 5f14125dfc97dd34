import Mathlib
import RemoteSql.Blob.Progress
import RemoteSql.Proofs.Trace

/-!
# Progress under many calls

A progress is shared by the transfer, which counts on it, and the caller, who may cancel. The wish to
cancel lasts until the progress is reset, whatever the transfer does meanwhile. The percentage of a
transfer that counts is a share of its total that never runs ahead of the octets and never goes
back; only a transfer that is complete shows the whole.
-/

namespace RemoteSql.Progress

inductive Call
  | begin (total : UInt64)
  | record (count : UInt64)
  | setPercent (percent : UInt32)
  | complete
  | cancel
  | reset

def call (p : Progress) : Call → Progress
  | .begin total => p.begin total
  | .record count => p.record count
  | .setPercent percent => p.setPercent percent
  | .complete => p.complete
  | .cancel => p.cancel
  | .reset => p.reset

def run (p : Progress) (ks : List Call) : Progress := ks.foldl call p

theorem run_concat (p : Progress) (ks : List Call) (k : Call) :
    p.run (ks ++ [k]) = (p.run ks).call k := by
  simp [run]

theorem cancelled_call (p : Progress) (k : Call) :
    (p.call k).cancelled = true ↔ k = .cancel ∨ p.cancelled = true ∧ k ≠ .reset := by
  cases k <;> simp [call, Progress.begin, record, setPercent, complete, cancel, reset]

theorem cancelled_run (p : Progress) (ks : List Call) :
    (p.run ks).cancelled = true ↔
      Since (· = Call.cancel) (· = Call.reset) ks ∨ p.cancelled = true ∧ Call.reset ∉ ks := by
  induction ks using List.reverseRecOn with
  | nil => simp [run, not_since_nil]
  | append_singleton ks k ih =>
    rw [run_concat, cancelled_call, ih, since_concat, List.mem_append, List.mem_singleton,
      eq_comm (a := Call.reset)]
    tauto

/-! ## The share of a total -/

section Share

variable (done total : UInt64)

theorem toNat_share :
    (share done total).toNat =
      min (min (done.toNat * 100) (UInt64.size - 1) / total.toNat) 99 := by
  have hmin : min (min (done.toNat * 100) (UInt64.size - 1) / total.toNat) 99 ≤ 99 :=
    min_le_right _ _
  rw [share, UInt32.toNat_ofNat_of_lt' (lt_of_le_of_lt hmin (by decide))]

theorem share_le : share done total ≤ 99 := by
  rw [UInt32.le_iff_toNat_le, toNat_share]
  exact min_le_right _ _

/-- The product that stops at the greatest word can only make the share smaller. -/
theorem share_le_ratio : (share done total).toNat ≤ 100 * done.toNat / total.toNat := by
  rw [toNat_share, Nat.mul_comm 100]
  exact (min_le_left _ _).trans (Nat.div_le_div_right (min_le_left _ _))

variable {done total}

theorem toNat_share_of_fits (h : 100 * done.toNat < UInt64.size) :
    (share done total).toNat = min 99 (100 * done.toNat / total.toNat) := by
  have hfits : done.toNat * 100 ≤ UInt64.size - 1 := by omega
  rw [toNat_share, min_eq_left hfits, min_comm, Nat.mul_comm 100]

theorem share_mono {done' : UInt64} (h : done ≤ done') : share done total ≤ share done' total := by
  rw [UInt32.le_iff_toNat_le, toNat_share, toNat_share]
  have hproduct : done.toNat * 100 ≤ done'.toNat * 100 :=
    Nat.mul_le_mul_right 100 (UInt64.le_iff_toNat_le.mp h)
  exact min_le_min_right 99 (Nat.div_le_div_right (min_le_min_right _ hproduct))

end Share

theorem percent_record_le {p : Progress} (h : p.percent ≤ 99) (count : UInt64) :
    (p.record count).percent ≤ 99 := by
  unfold record
  dsimp only
  split
  · exact h
  · exact share_le _ _

/-! ## When a progress shows the whole -/

/-- A call that makes a progress show 100 percent. -/
def Fills (k : Call) : Prop := k = .complete ∨ ∃ n, k = .setPercent n ∧ 100 ≤ n

/-- A call with which a progress starts over. -/
def Restarts (k : Call) : Prop := k = .reset ∨ ∃ total, k = .begin total

theorem percent_call_le {p : Progress} {k : Call} (hk : Restarts k ∨ p.percent ≤ 99 ∧ ¬Fills k) :
    (p.call k).percent ≤ 99 := by
  rcases hk with (rfl | ⟨total, rfl⟩) | ⟨hp, hfills⟩
  · simp [call, reset, Progress.begin]
  · simp [call, Progress.begin]
  · cases k with
    | begin total => simp [call, Progress.begin]
    | reset => simp [call, reset, Progress.begin]
    | record count => exact percent_record_le hp count
    | complete => exact absurd (Or.inl rfl) hfills
    | cancel => exact hp
    | setPercent n =>
      have hn : ¬100 ≤ n := fun h => hfills (Or.inr ⟨n, rfl, h⟩)
      change (if n ≤ 100 then n else 100) ≤ 99
      rw [UInt32.not_le] at hn
      rw [if_pos (UInt32.le_of_lt hn)]
      exact UInt32.le_iff_toNat_le.mpr (Nat.le_of_lt_succ (UInt32.lt_iff_toNat_lt.mp hn))

/-- A progress that did not show the whole shows it only since a call that fills it. -/
theorem percent_run_le (p : Progress) (hp : p.percent ≤ 99) (ks : List Call) :
    (p.run ks).percent ≤ 99 ∨ Since Fills Restarts ks := by
  induction ks using List.reverseRecOn with
  | nil => exact Or.inl hp
  | append_singleton ks k ih =>
    rw [run_concat, since_concat]
    by_cases hfills : Fills k
    · exact Or.inr (Or.inl hfills)
    by_cases hrestarts : Restarts k
    · exact Or.inl (percent_call_le (Or.inl hrestarts))
    rcases ih with hle | hsince
    · exact Or.inl (percent_call_le (Or.inr ⟨hle, hfills⟩))
    · exact Or.inr (Or.inr ⟨hsince, hrestarts⟩)

/-! ## A transfer that counts -/

/-- How many octets the counts add up to. -/
def octets (counts : List UInt64) : Nat := (counts.map UInt64.toNat).sum

/-- A progress whose transfer has begun and then counted. -/
def counted (p : Progress) (total : UInt64) (counts : List UInt64) : Progress :=
  p.run (.begin total :: counts.map .record)

theorem octets_concat (counts : List UInt64) (n : UInt64) :
    octets (counts ++ [n]) = octets counts + n.toNat := by
  simp [octets]

theorem octets_append (counts counts' : List UInt64) :
    octets (counts ++ counts') = octets counts + octets counts' := by
  simp [octets]

theorem counted_concat (p : Progress) (total : UInt64) (counts : List UInt64) (n : UInt64) :
    p.counted total (counts ++ [n]) = (p.counted total counts).record n := by
  rw [counted, List.map_append, ← List.cons_append]
  exact run_concat p (.begin total :: counts.map .record) (.record n)

theorem counted_eq (p : Progress) (total : UInt64) (counts : List UInt64) :
    p.counted total counts =
      { transferred := UInt64.ofNat (octets counts)
        total
        percent :=
          if counts = [] ∨ total = 0 then 0 else share (UInt64.ofNat (octets counts)) total
        cancelled := p.cancelled } := by
  induction counts using List.reverseRecOn with
  | nil => rfl
  | append_singleton counts n ih =>
    have hdone : UInt64.ofNat (octets (counts ++ [n])) = UInt64.ofNat (octets counts) + n := by
      rw [octets_concat, UInt64.ofNat_add, UInt64.ofNat_toNat]
    rw [counted_concat, ih, hdone]
    by_cases htotal : total = 0 <;> simp [record, htotal]

/-- What a progress shows of a transfer of so many octets that has made the given counts. -/
structure Shows (total : UInt64) (counts : List UInt64) (p : Progress) : Prop where
  transferred : p.transferred.toNat = octets counts
  total_eq : p.total = total
  percent_le : p.percent ≤ 99
  percent_le_ratio : total ≠ 0 → p.percent.toNat ≤ 100 * octets counts / total.toNat
  percent_eq : counts ≠ [] → total ≠ 0 → 100 * octets counts < UInt64.size →
    p.percent.toNat = min 99 (100 * octets counts / total.toNat)
  percent_of_empty : total = 0 → p.percent = 0

theorem shows_counted (p : Progress) (total : UInt64) {counts : List UInt64}
    (h : octets counts < UInt64.size) : Shows total counts (p.counted total counts) := by
  have hdone : (UInt64.ofNat (octets counts)).toNat = octets counts := UInt64.toNat_ofNat_of_lt' h
  rw [counted_eq]
  constructor
  · exact hdone
  · rfl
  · dsimp only
    split
    · decide
    · exact share_le _ _
  · intro _
    dsimp only
    split
    · exact Nat.zero_le _
    · simpa only [hdone] using share_le_ratio (UInt64.ofNat (octets counts)) total
  · intro hcounts htotal hfits
    have hshare : ¬(counts = [] ∨ total = 0) := by tauto
    rw [← hdone] at hfits
    simpa only [if_neg hshare, hdone] using toNat_share_of_fits hfits
  · intro htotal
    exact if_pos (Or.inr htotal)

theorem percent_counted_mono (p : Progress) (total : UInt64) {pre post : List UInt64}
    (h : octets (pre ++ post) < UInt64.size) :
    (p.counted total pre).percent ≤ (p.counted total (pre ++ post)).percent := by
  rw [counted_eq, counted_eq]
  dsimp only
  by_cases hpre : pre = [] ∨ total = 0
  · rw [if_pos hpre]
    exact UInt32.le_iff_toNat_le.mpr (Nat.zero_le _)
  · have hall : ¬(pre ++ post = [] ∨ total = 0) := by
      rw [List.append_eq_nil_iff]
      tauto
    have hsum := octets_append pre post
    rw [if_neg hpre, if_neg hall]
    apply share_mono
    rw [UInt64.le_iff_toNat_le, UInt64.toNat_ofNat_of_lt' (by omega), UInt64.toNat_ofNat_of_lt' h]
    omega

/-- While a transfer counts, its progress shows the octets so far and a percentage that never goes
back, never runs ahead of them and stays below 100, which only a call that fills it brings about. To
begin a transfer clears what was counted before and keeps the wish to cancel. -/
theorem counted_shows (p : Progress) (total : UInt64) (counts : List UInt64)
    (h : octets counts < UInt64.size) :
    (∀ made, made <+: counts → Shows total made (p.counted total made) ∧
      ∀ earlier, earlier <+: made →
        (p.counted total earlier).percent ≤ (p.counted total made).percent) ∧
    (p.counted total counts).complete.percent = 100 ∧
    (∀ ks, ((p.begin total).run ks).percent = 100 → Since Fills Restarts ks) ∧
    ∀ before, p.run (before ++ [.begin total]) =
      { transferred := 0, total, percent := 0, cancelled := (p.run before).cancelled } := by
  refine ⟨?_, rfl, ?_, ?_⟩
  · rintro made ⟨post, rfl⟩
    have hmade : octets made < UInt64.size := by
      rw [octets_append] at h
      omega
    refine ⟨shows_counted p total hmade, ?_⟩
    rintro earlier ⟨later, rfl⟩
    exact percent_counted_mono p total hmade
  · intro ks hfull
    have hbegun : (p.begin total).percent ≤ 99 := by simp [Progress.begin]
    refine (percent_run_le (p.begin total) hbegun ks).resolve_left fun hle => ?_
    rw [hfull] at hle
    exact absurd hle (by decide)
  · intro before
    rw [run_concat]
    rfl

/-- The product of the octets and 100 has passed the greatest word here, so the percentage lags. -/
theorem counted_shows_saturated :
    octets [0x8000000000000000, 0x4000000000000000] < UInt64.size ∧
      Shows 0xFFFFFFFFFFFFFFFF [0x8000000000000000, 0x4000000000000000]
        (counted {} 0xFFFFFFFFFFFFFFFF [0x8000000000000000, 0x4000000000000000]) ∧
      (counted {} 0xFFFFFFFFFFFFFFFF [0x8000000000000000, 0x4000000000000000]).percent = 1 := by
  have h : octets [0x8000000000000000, 0x4000000000000000] < UInt64.size := by decide
  have hshows := (counted_shows {} 0xFFFFFFFFFFFFFFFF _ h).1 _ List.prefix_rfl
  exact ⟨h, hshows.1, by decide⟩

end RemoteSql.Progress
