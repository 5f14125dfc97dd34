import Mathlib
import RemoteSql.Proofs.Payload.Balance
import RemoteSql.Proofs.Payload.Token

/-!
# How far a step of the scanner goes

Strings and brackets are stepped over by counting alone, in payloads that are no JSON as well. How
far that goes is told here from the octets: a string ends at the first quote that no backslash
hides, and brackets end with the shortest stretch that closes as many as it opens. A step does the
same whether or not it stores what it takes.
-/

namespace RemoteSql.Payload

/-! ## Where a string ends -/

/-- The octets end in an odd number of backslashes, the last of which hides what follows. -/
def Hides (bs : Bytes) : Prop := Odd (bs.reverse.takeWhile (· = Ascii.backslash)).length

theorem not_hides_nil : ¬Hides [] := by simp [Hides]

theorem hides_concat (bs : Bytes) (b : UInt8) :
    Hides (bs ++ [b]) ↔ b = Ascii.backslash ∧ ¬Hides bs := by
  by_cases hb : b = Ascii.backslash
  · simp [Hides, hb, Nat.odd_add_one]
  · simp [Hides, hb]

/-- What follows the given octets of a string ends with its closing quote, the first that is not
hidden. -/
def ClosedAfter (pre key : Bytes) : Prop :=
  ∃ body, key = body ++ [Ascii.quote] ∧ ¬Hides (pre ++ body) ∧
    ∀ head tail, body = head ++ Ascii.quote :: tail → Hides (pre ++ head)

theorem closedAfter_quote {pre rest : Bytes} (h : ¬Hides pre) :
    ClosedAfter pre (Ascii.quote :: rest) ↔ rest = [] := by
  constructor
  · rintro ⟨body, hkey, -, hhidden⟩
    cases body with
    | nil => exact (List.cons.inj hkey).2
    | cons b body =>
      obtain ⟨rfl, -⟩ := List.cons.inj hkey
      have hpre := hhidden [] body rfl
      rw [List.append_nil] at hpre
      exact absurd hpre h
  · rintro rfl
    exact ⟨[], rfl, by rwa [List.append_nil], fun head tail h => by simp at h⟩

theorem closedAfter_cons {pre rest : Bytes} {b : UInt8} (h : b = Ascii.quote → Hides pre) :
    ClosedAfter pre (b :: rest) ↔ ClosedAfter (pre ++ [b]) rest := by
  constructor
  · rintro ⟨body, hkey, hopen, hhidden⟩
    cases body with
    | nil =>
      obtain ⟨rfl, -⟩ := List.cons.inj hkey
      rw [List.append_nil] at hopen
      exact absurd (h rfl) hopen
    | cons c body =>
      obtain ⟨rfl, rfl⟩ := List.cons.inj hkey
      refine ⟨body, rfl, by simpa using hopen, ?_⟩
      rintro head tail rfl
      simpa using hhidden (b :: head) tail rfl
  · rintro ⟨body, rfl, hopen, hhidden⟩
    refine ⟨b :: body, rfl, by simpa using hopen, ?_⟩
    intro head tail hbody
    cases head with
    | nil =>
      rw [List.append_nil]
      exact h (List.cons.inj hbody).1
    | cons c head =>
      obtain ⟨rfl, rfl⟩ := List.cons.inj hbody
      simpa using hhidden head tail rfl

/-- The scanner remembers of the octets of a string whether they hide the next one. -/
theorem quoted_iff_closedAfter {escaped : Bool} {pre key : Bytes}
    (h : escaped = true ↔ Hides pre) : Quoted escaped key ↔ ClosedAfter pre key := by
  induction key generalizing escaped pre with
  | nil =>
    refine iff_of_false id ?_
    rintro ⟨body, hkey, -⟩
    simp at hkey
  | cons b rest ih =>
    cases escaped with
    | true =>
      have hpre : Hides pre := h.mp rfl
      rw [closedAfter_cons fun _ => hpre]
      exact ih (by simp [hides_concat, hpre])
    | false =>
      have hpre : ¬Hides pre := fun hpre => Bool.false_ne_true (h.mpr hpre)
      simp only [Quoted]
      split
      · next hslash =>
        subst hslash
        rw [closedAfter_cons fun hquote => absurd hquote (by decide)]
        exact ih (by simp [hides_concat, hpre])
      · next hslash =>
        split
        · next hquote =>
          subst hquote
          rw [closedAfter_quote hpre]
        · next hquote =>
          rw [closedAfter_cons fun h => absurd h hquote]
          exact ih (by simp [hides_concat, hslash])

theorem quoted_iff {key : Bytes} : Quoted false key ↔ ClosedAfter [] key :=
  quoted_iff_closedAfter (iff_of_false Bool.false_ne_true not_hides_nil)

/-! ## Where brackets end -/

def Opening (b : UInt8) : Prop := b = Ascii.openBrace ∨ b = Ascii.openBracket

def Closing (b : UInt8) : Prop := b = Ascii.closeBrace ∨ b = Ascii.closeBracket

instance : DecidablePred Opening := fun _ => inferInstanceAs (Decidable (_ ∨ _))

instance : DecidablePred Closing := fun _ => inferInstanceAs (Decidable (_ ∨ _))

/-- Where octets stand to strings: outside of them, inside one, or inside one after a backslash that
hides the next octet. -/
inductive Quoting
  | outside
  | inside
  | hidden
  deriving DecidableEq

namespace Quoting

def next : Quoting → UInt8 → Quoting
  | outside, b => if b = Ascii.quote then inside else outside
  | inside, b =>
    if b = Ascii.backslash then hidden else if b = Ascii.quote then outside else inside
  | hidden, _ => inside

/-- The octets that stand outside of strings. -/
def unquoted : Quoting → Bytes → Bytes
  | _, [] => []
  | outside, b :: bs => b :: (outside.next b).unquoted bs
  | q, b :: bs => (q.next b).unquoted bs

/-- How many brackets are opened outside of strings, less those that are closed. -/
def excess (q : Quoting) (bs : Bytes) : ℤ :=
  ((q.unquoted bs).countP Opening : ℤ) - (q.unquoted bs).countP Closing

/-- What one octet adds to the count of open brackets. -/
def turn : Quoting → UInt8 → ℤ
  | outside, b => if Opening b then 1 else if Closing b then -1 else 0
  | _, _ => 0

/-- Where the scanner stands with so many open brackets. -/
def nesting : Quoting → Nat → Nesting
  | outside, depth => ⟨depth, false, false⟩
  | inside, depth => ⟨depth, true, false⟩
  | hidden, depth => ⟨depth, true, true⟩

variable (q : Quoting)

@[simp] theorem excess_nil : q.excess [] = 0 := by
  cases q <;> rfl

theorem excess_cons (b : UInt8) (bs : Bytes) :
    q.excess (b :: bs) = q.turn b + (q.next b).excess bs := by
  cases q with
  | outside =>
    have hexclusive : Opening b → ¬Closing b := by
      rintro (rfl | rfl) <;> decide
    by_cases hopen : Opening b
    · simp [excess, unquoted, turn, hopen, hexclusive hopen]
      ring
    · by_cases hclose : Closing b <;> simp [excess, unquoted, turn, hopen, hclose]
      ring
  | inside => simp [excess, unquoted, turn]
  | hidden => simp [excess, unquoted, turn]

@[simp] theorem depth_nesting (depth : Nat) : (q.nesting depth).depth = depth := by
  cases q <;> rfl

/-- With a bracket open, the scanner stops where the count goes down to zero, and only there. -/
theorem step_nesting {depth : Nat} (hdepth : 1 ≤ depth) (b : UInt8) :
    (q.nesting depth).step b =
      if (depth : ℤ) + q.turn b = 0 then none
      else some ((q.next b).nesting ((depth : ℤ) + q.turn b).toNat) := by
  have hpos : ¬(depth : ℤ) + 0 = 0 := by omega
  have hstay : ((depth : ℤ) + 0).toNat = depth := by omega
  cases q with
  | hidden => simp only [turn, if_neg hpos, hstay, next, nesting, Nesting.step, if_true]
  | inside =>
    simp only [turn, if_neg hpos, hstay, next, nesting, Nesting.step, if_true, Bool.false_eq_true,
      if_false]
    split_ifs <;> rfl
  | outside =>
    by_cases hquote : b = Ascii.quote
    · subst hquote
      have hturn : turn outside Ascii.quote = 0 := rfl
      rw [hturn, if_neg hpos, hstay]
      rfl
    have hnext : next outside b = outside := if_neg hquote
    rw [hnext]
    by_cases hopen : Opening b
    · have hturn : turn outside b = 1 := if_pos hopen
      have hmore : ¬(depth : ℤ) + 1 = 0 := by omega
      have hsucc : ((depth : ℤ) + 1).toNat = depth + 1 := by omega
      rw [hturn, if_neg hmore, hsucc]
      exact (if_neg hquote).trans (if_pos hopen)
    by_cases hclose : Closing b
    · have hturn : turn outside b = -1 := (if_neg hopen).trans (if_pos hclose)
      have hpred : ((depth : ℤ) + -1).toNat = depth - 1 := by omega
      have hlast : (depth : ℤ) + -1 = 0 ↔ depth ≤ 1 := by omega
      rw [hturn, hpred]
      simp only [hlast]
      exact (if_neg hquote).trans ((if_neg hopen).trans (if_pos hclose))
    · have hturn : turn outside b = 0 := (if_neg hopen).trans (if_neg hclose)
      rw [hturn, if_neg hpos, hstay]
      exact (if_neg hquote).trans ((if_neg hopen).trans (if_neg hclose))

theorem neg_one_le_turn (b : UInt8) : -1 ≤ q.turn b := by
  cases q with
  | outside =>
    simp only [turn]
    split_ifs <;> decide
  | inside => simp [turn]
  | hidden => simp [turn]

theorem exists_step_nesting {depth : Nat} (hdepth : 1 ≤ depth) {b : UInt8}
    (hb : (depth : ℤ) + q.turn b ≠ 0) :
    ∃ depth' : Nat, 1 ≤ depth' ∧ (depth' : ℤ) = depth + q.turn b ∧
      (q.nesting depth).step b = some ((q.next b).nesting depth') := by
  have hturn := q.neg_one_le_turn b
  refine ⟨((depth : ℤ) + q.turn b).toNat, by omega, by omega, ?_⟩
  rw [step_nesting q hdepth, if_neg hb]

/-- From a count on, the shortest stretch that brings it down to zero. -/
def Settles (q : Quoting) (count : ℤ) (body : Bytes) : Prop :=
  count + q.excess body = 0 ∧ ∀ pre, pre <+: body → pre ≠ body → count + q.excess pre ≠ 0

variable {q}

theorem not_settles_nil {count : ℤ} (hcount : count ≠ 0) : ¬q.Settles count [] := by
  rintro ⟨h, -⟩
  rw [excess_nil, add_zero] at h
  exact hcount h

theorem settles_cons_of_zero {count : ℤ} (hcount : count ≠ 0) {b : UInt8} {body : Bytes}
    (hb : count + q.turn b = 0) : q.Settles count (b :: body) ↔ body = [] := by
  have hone : count + q.excess [b] = 0 := by rwa [excess_cons, excess_nil, add_zero]
  constructor
  · rintro ⟨-, hshortest⟩
    by_contra hbody
    have hproper : [b] ≠ b :: body := fun h => hbody (List.cons.inj h).2.symm
    exact hshortest [b] (by simp) hproper hone
  · rintro rfl
    refine ⟨hone, fun pre hpre hne => ?_⟩
    rcases List.prefix_cons_iff.mp hpre with rfl | ⟨tail, rfl, htail⟩
    · rwa [excess_nil, add_zero]
    · exact absurd (by rw [List.prefix_nil.mp htail]) hne

theorem settles_cons {count : ℤ} (hcount : count ≠ 0) {b : UInt8} {body : Bytes} :
    count + q.turn b ≠ 0 →
      (q.Settles count (b :: body) ↔ (q.next b).Settles (count + q.turn b) body) := by
  intro hb
  unfold Settles
  rw [excess_cons, ← add_assoc]
  refine and_congr_right fun _ => ⟨fun h pre hpre hne => ?_, fun h pre hpre hne => ?_⟩
  · have hcons := h (b :: pre) (by simpa using hpre) (by simpa using hne)
    rwa [excess_cons, ← add_assoc] at hcons
  · rcases List.prefix_cons_iff.mp hpre with rfl | ⟨tail, rfl, htail⟩
    · rwa [excess_nil, add_zero]
    · rw [excess_cons, ← add_assoc]
      exact h tail htail (by simpa using hne)

/-- From inside brackets on, the scanner ends with the shortest stretch that closes them. -/
theorem ends_iff {depth : Nat} (hdepth : 1 ≤ depth) (body : Bytes) :
    (q.nesting depth).Ends body ↔ q.Settles depth body := by
  have hcount : (depth : ℤ) ≠ 0 := by omega
  induction body generalizing q depth with
  | nil => exact iff_of_false id (not_settles_nil hcount)
  | cons b body ih =>
    rw [Nesting.Ends]
    by_cases hb : (depth : ℤ) + q.turn b = 0
    · rw [step_nesting q hdepth, if_pos hb, settles_cons_of_zero hcount hb]
    · obtain ⟨depth', hdepth', hnext, hstep⟩ := exists_step_nesting q hdepth hb
      rw [hstep, settles_cons hcount hb, ← hnext]
      exact ih hdepth' (by omega)

/-- As long as the count does not get down to zero, the scanner keeps it. -/
theorem exists_walk {depth : Nat} (hdepth : 1 ≤ depth) {bs : Bytes}
    (hopen : ∀ pre, pre <+: bs → (depth : ℤ) + q.excess pre ≠ 0) :
    ∃ n, (q.nesting depth).walk bs = some n ∧ 1 ≤ n.depth ∧ (n.depth : ℤ) = depth + q.excess bs := by
  induction bs generalizing q depth with
  | nil => exact ⟨_, rfl, by rwa [depth_nesting], by simp⟩
  | cons b bs ih =>
    have hb := hopen [b] (by simp)
    rw [excess_cons, excess_nil, add_zero] at hb
    obtain ⟨depth', hdepth', hnext, hstep⟩ := exists_step_nesting q hdepth hb
    have htail : ∀ pre, pre <+: bs → (depth' : ℤ) + (q.next b).excess pre ≠ 0 := by
      intro pre hpre
      have hcons := hopen (b :: pre) (by simpa using hpre)
      rwa [excess_cons, ← add_assoc, ← hnext] at hcons
    obtain ⟨n, hwalk, hone, hdepth⟩ := ih hdepth' htail
    rw [Nesting.walk, hstep, excess_cons, ← add_assoc, ← hnext]
    exact ⟨n, hwalk, hone, hdepth⟩

end Quoting

/-- As many brackets are opened as are closed outside of strings, brackets of the two shapes taken
together. -/
def Level (bs : Bytes) : Prop :=
  (Quoting.outside.unquoted bs).countP Opening = (Quoting.outside.unquoted bs).countP Closing

theorem level_iff {bs : Bytes} : Level bs ↔ Quoting.outside.excess bs = 0 := by
  unfold Level Quoting.excess
  omega

/-- Octets of which no shorter stretch from the head, bar the empty one, is level. -/
structure FirstLevel (bs : Bytes) : Prop where
  ne_nil : bs ≠ []
  level : Level bs
  shortest : ∀ pre, pre <+: bs → pre ≠ [] → Level pre → pre = bs

theorem exists_firstLevel {bs level : Bytes} (hbs : level <+: bs) (hne : level ≠ [])
    (hlevel : Level level) : ∃ first, first <+: bs ∧ FirstLevel first := by
  obtain ⟨first, ⟨hfirst, hne, hlevel⟩, hleast⟩ := WellFounded.has_min
    (measure (List.length : Bytes → Nat)).wf {pre | pre <+: bs ∧ pre ≠ [] ∧ Level pre}
    ⟨level, hbs, hne, hlevel⟩
  refine ⟨first, hfirst, hne, hlevel, fun pre hpre hne hlevel => ?_⟩
  have hle : ¬pre.length < first.length := hleast pre ⟨hpre.trans hfirst, hne, hlevel⟩
  exact hpre.eq_of_length_le (by omega)

section Brackets

variable {b : UInt8} (hb : Opening b)

include hb in
theorem excess_opening (bs : Bytes) :
    Quoting.outside.excess (b :: bs) = 1 + Quoting.outside.excess bs := by
  have hquote : b ≠ Ascii.quote := by
    rcases hb with rfl | rfl <;> decide
  have hturn : Quoting.outside.turn b = 1 := if_pos hb
  have hnext : Quoting.outside.next b = .outside := if_neg hquote
  rw [Quoting.excess_cons, hturn, hnext]

include hb in
theorem firstLevel_iff (body : Bytes) :
    FirstLevel (b :: body) ↔ Quoting.outside.Settles 1 body := by
  constructor
  · rintro ⟨-, hlevel, hshortest⟩
    rw [level_iff, excess_opening hb] at hlevel
    refine ⟨hlevel, fun pre hpre hne hzero => hne ?_⟩
    rw [← excess_opening hb, ← level_iff] at hzero
    exact (List.cons.inj (hshortest (b :: pre) (by simpa using hpre) (by simp) hzero)).2
  · rintro ⟨hzero, hshortest⟩
    refine ⟨by simp, by rwa [level_iff, excess_opening hb], fun pre hpre hne hlevel => ?_⟩
    rcases List.prefix_cons_iff.mp hpre with rfl | ⟨tail, rfl, htail⟩
    · exact absurd rfl hne
    · rw [level_iff, excess_opening hb] at hlevel
      by_contra hproper
      exact hshortest tail htail (by simpa using hproper) hlevel

include hb in
theorem ends_opening_iff (body : Bytes) : Nesting.Ends {} (b :: body) ↔ FirstLevel (b :: body) := by
  rw [firstLevel_iff hb, Nesting.Ends, step_opening hb 0]
  exact Quoting.ends_iff (q := .outside) le_rfl body

include hb in
theorem exists_walk_opening {bs : Bytes}
    (hopen : ∀ pre, pre <+: b :: bs → pre ≠ [] → ¬Level pre) :
    ∃ n, Nesting.walk {} (b :: bs) = some n ∧ 1 ≤ n.depth ∧
      (n.depth : ℤ) = Quoting.outside.excess (b :: bs) := by
  rw [Nesting.walk, step_opening hb 0, excess_opening hb]
  refine Quoting.exists_walk (q := .outside) le_rfl fun pre hpre => ?_
  have hlevel := hopen (b :: pre) (by simpa using hpre) (by simp)
  rwa [level_iff, excess_opening hb] at hlevel

end Brackets

/-! ## With a store and without -/

/-- What a store holds, in the order in which it was read. -/
def Store.contents (out : Store) : Option Bytes := out.map List.reverse

theorem Store.contents_keepAll (out : Store) (bs : Bytes) :
    (out.keepAll bs).contents = out.contents.map (· ++ bs) := by
  cases out <;> simp [Store.contents, Store.keepAll]

/-- A step that fails alike with every store, or else goes over what it skips and over octets that
it adds to the store. -/
def Takes (s : Rest) (skipped : Bytes) (step : Store → Except Error (Store × Rest)) : Prop :=
  (∃ e, ∀ out, step out = .error e) ∨
    ∃ body rest, s.octets = skipped ++ (body ++ rest) ∧ ∀ out, ∃ out',
      step out = .ok (out', ⟨s.offset + (skipped.length + body.length), rest⟩) ∧
        out'.contents = out.contents.map (· ++ body)

section Takes

variable {s : Rest} {skipped : Bytes} {step : Store → Except Error (Store × Rest)}

theorem takes_body (body rest : Bytes) (hoctets : s.octets = skipped ++ (body ++ rest))
    (h : ∀ out, step out =
      .ok (out.keepAll body, ⟨s.offset + (skipped.length + body.length), rest⟩)) :
    Takes s skipped step :=
  Or.inr ⟨body, rest, hoctets, fun out => ⟨_, h out, out.contents_keepAll body⟩⟩

/-- What is skipped before a step counts as well. -/
theorem Takes.after {o : Nat} {tail : Bytes} (h : Takes ⟨o + skipped.length, tail⟩ [] step) :
    Takes ⟨o, skipped ++ tail⟩ skipped step := by
  rcases h with hfailed | ⟨body, rest, htail, htaken⟩
  · exact Or.inl hfailed
  · refine Or.inr ⟨body, rest, congrArg (skipped ++ ·) htail, fun out => ?_⟩
    obtain ⟨out', hstep, hcontents⟩ := htaken out
    exact ⟨out', by simpa [Nat.add_assoc] using hstep, hcontents⟩

end Takes

/-- A string that is not closed is missed where the payload ends. -/
theorem error_of_copyText {escaped : Bool} {o : Nat} {out : Store} {bs : Bytes} {e : Error}
    (h : copyText escaped o out bs = .error e) : e = malformed (o + bs.length) .more := by
  induction bs generalizing escaped o out with
  | nil =>
    cases h
    rfl
  | cons b bs ih =>
    have hlength : o + (b :: bs).length = o + 1 + bs.length := by
      rw [List.length_cons]
      omega
    rw [copyText] at h
    rw [hlength]
    split_ifs at h <;> exact ih h

theorem error_of_copyBrackets {n : Nesting} {o : Nat} {out : Store} {bs : Bytes} {e : Error}
    (h : copyBrackets n o out bs = .error e) : e = malformed (o + bs.length) .more := by
  induction bs generalizing n o out with
  | nil =>
    cases h
    rfl
  | cons b bs ih =>
    have hlength : o + (b :: bs).length = o + 1 + bs.length := by
      rw [List.length_cons]
      omega
    rw [copyBrackets] at h
    rw [hlength]
    cases hstep : n.step b with
    | none => simp [hstep] at h
    | some m => exact ih (by simpa [hstep] using h)

theorem takes_copyString (s : Rest) : Takes s [] (copyString s) := by
  obtain ⟨o, bs⟩ := s
  cases bs with
  | nil => exact Or.inl ⟨_, fun out => rfl⟩
  | cons b bs =>
    by_cases hclosed : ∃ key rest, bs = key ++ rest ∧ Quoted false key
    · obtain ⟨key, rest, rfl, hkey⟩ := hclosed
      refine takes_body (b :: key) rest rfl fun out => ?_
      rw [Store.keepAll_cons]
      refine (copyText_append hkey (o + 1) (out.keep b) rest).trans ?_
      simp only [List.length_nil, List.length_cons]
      congr 3
      omega
    · refine Or.inl ⟨malformed (o + 1 + bs.length) .more, fun out => ?_⟩
      change copyText false (o + 1) (out.keep b) bs = _
      cases hcopy : copyText false (o + 1) (out.keep b) bs with
      | error e => rw [error_of_copyText hcopy]
      | ok r =>
        obtain ⟨key, hbs, hkey⟩ := exists_quoted_of_copyText hcopy
        exact absurd ⟨key, _, hbs, hkey⟩ hclosed

theorem takes_copyNested (s : Rest) : Takes s [] (copyNested s) := by
  obtain ⟨o, bs⟩ := s
  by_cases hclosed : ∃ body rest, bs = body ++ rest ∧ Nesting.Ends {} body
  · obtain ⟨body, rest, rfl, hbody⟩ := hclosed
    refine takes_body body rest rfl fun out => ?_
    rw [List.length_nil, Nat.zero_add]
    exact copyBrackets_append hbody o out rest
  · refine Or.inl ⟨malformed (o + bs.length) .more, fun out => ?_⟩
    change copyBrackets {} o out bs = _
    cases hcopy : copyBrackets {} o out bs with
    | error e => rw [error_of_copyBrackets hcopy]
    | ok r =>
      obtain ⟨body, hbs, hbody⟩ := exists_ends_of_copyBrackets hcopy
      exact absurd ⟨body, _, hbs, hbody⟩ hclosed

theorem takeWhile_blanks {blanks tail : Bytes} (hb : Blanks blanks) (hbare : Bare tail) :
    (blanks ++ tail).takeWhile Ascii.isBlank = blanks := by
  rw [List.takeWhile_append_of_pos hb]
  cases tail with
  | nil => simp
  | cons b tail => simp [(bare_cons b tail).mp hbare]

theorem takes_copyValue (s : Rest) :
    Takes s (s.octets.takeWhile Ascii.isBlank) (copyValue s) := by
  obtain ⟨o, bs⟩ := s
  obtain ⟨blanks, tail, rfl, hb, hbare⟩ := exists_blanks bs
  have hskip : Rest.skipBlank ⟨o, blanks ++ tail⟩ = ⟨o + blanks.length, tail⟩ :=
    skipBlank_append hb hbare o
  rw [takeWhile_blanks hb hbare]
  apply Takes.after
  unfold copyValue
  rw [hskip]
  cases tail with
  | nil => exact Or.inl ⟨_, fun out => rfl⟩
  | cons b tail =>
    dsimp only
    by_cases hquote : b = Ascii.quote
    · simp only [if_pos hquote]
      exact takes_copyString ⟨o + blanks.length, b :: tail⟩
    by_cases hopen : b = Ascii.openBrace ∨ b = Ascii.openBracket
    · simp only [if_neg hquote, if_pos hopen]
      exact takes_copyNested ⟨o + blanks.length, b :: tail⟩
    simp only [if_neg hquote, if_neg hopen]
    obtain ⟨body, rest, htail, hbody, hrest⟩ := exists_scalar (b :: tail)
    rw [htail]
    simp only [copyScalar_append hbody hrest]
    by_cases hnil : body = []
    · subst hnil
      exact Or.inl ⟨_, fun out => if_pos rfl⟩
    · refine takes_body body rest rfl fun out => ?_
      have hpos : body.length ≠ 0 := fun h => hnil (List.length_eq_zero_iff.mp h)
      rw [if_neg (by omega), List.length_nil, Nat.zero_add]

/-! ## What is stepped over -/

theorem copyString_eq_ok_iff {s s' : Rest} {out : Store} :
    (∃ out', copyString s out = .ok (out', s')) ↔
      ∃ b key, s.octets = b :: (key ++ s'.octets) ∧ ClosedAfter [] key ∧
        s'.offset = s.offset + (key.length + 1) := by
  obtain ⟨o, bs⟩ := s
  constructor
  · rintro ⟨out', h⟩
    cases bs with
    | nil => simp [copyString] at h
    | cons b bs =>
      obtain ⟨key, rfl, hkey⟩ := exists_quoted_of_copyText h
      have hcopy := (copyText_append hkey (o + 1) (out.keep b) s'.octets).symm.trans h
      refine ⟨b, key, rfl, quoted_iff.mp hkey, ?_⟩
      rw [← congrArg (fun r => r.2.offset) (Except.ok.inj hcopy)]
      dsimp only
      omega
  · rintro ⟨b, key, rfl, hkey, hoffset⟩
    obtain ⟨o', rest⟩ := s'
    have ho : o' = o + 1 + key.length := by
      dsimp only at hoffset
      omega
    subst ho
    exact ⟨_, copyText_append (quoted_iff.mpr hkey) (o + 1) (out.keep b) rest⟩

theorem copyNested_eq_ok_iff {s s' : Rest} {out : Store} {b : UInt8} (hb : Opening b)
    (hhead : s.octets.head? = some b) :
    (∃ out', copyNested s out = .ok (out', s')) ↔
      ∃ first, s.octets = first ++ s'.octets ∧ FirstLevel first ∧
        s'.offset = s.offset + first.length := by
  obtain ⟨o, bs⟩ := s
  obtain ⟨tail, rfl⟩ : ∃ tail, bs = b :: tail := List.head?_eq_some_iff.mp hhead
  have hends : ∀ first rest, b :: tail = first ++ rest →
      (Nesting.Ends {} first ↔ FirstLevel first) := by
    intro first rest heq
    cases first with
    | nil => exact iff_of_false id fun h => h.ne_nil rfl
    | cons c first =>
      obtain ⟨rfl, -⟩ := List.cons.inj heq
      exact ends_opening_iff hb first
  constructor
  · rintro ⟨out', h⟩
    obtain ⟨first, heq, hfirst⟩ := exists_ends_of_copyBrackets h
    refine ⟨first, heq, (hends first _ heq).mp hfirst, ?_⟩
    have hcopy := copyBrackets_append hfirst o out s'.octets
    rw [← heq] at hcopy
    exact (congrArg (fun r => r.2.offset) (Except.ok.inj (hcopy.symm.trans h))).symm
  · rintro ⟨first, heq, hfirst, hoffset⟩
    obtain ⟨o', rest⟩ := s'
    obtain rfl : o' = o + first.length := hoffset
    have hcopy := copyBrackets_append ((hends first rest heq).mpr hfirst) o out rest
    rw [← heq] at hcopy
    exact ⟨_, hcopy⟩

/-- What a step over brackets comes to where a bracket opens. -/
structure StepsOver (s : Rest) : Prop where
  /-- It succeeds if brackets are closed at all. -/
  succeeds : ∀ out, (∃ r, copyNested s out = .ok r) ↔
    ∃ level, level <+: s.octets ∧ level ≠ [] ∧ Level level
  /-- It goes over the shortest stretch that closes them. -/
  shortest : ∀ out s', (∃ out', copyNested s out = .ok (out', s')) ↔
    ∃ first, s.octets = first ++ s'.octets ∧ FirstLevel first ∧
      s'.offset = s.offset + first.length
  /-- Until then the scanner's count is that of the brackets still open, and there is one. -/
  counts : ∀ pre, pre <+: s.octets → pre ≠ [] → (∀ level, level <+: pre → level ≠ [] →
    ¬Level level) → ∃ n, Nesting.walk {} pre = some n ∧ 1 ≤ n.depth ∧
      (n.depth : ℤ) = Quoting.outside.excess pre

theorem stepsOver {s : Rest} {b : UInt8} (hb : Opening b) (hhead : s.octets.head? = some b) :
    StepsOver s := by
  refine ⟨fun out => ⟨?_, ?_⟩, fun out s' => copyNested_eq_ok_iff hb hhead, ?_⟩
  · rintro ⟨⟨out', s'⟩, h⟩
    obtain ⟨first, heq, hfirst, -⟩ := (copyNested_eq_ok_iff hb hhead).mp ⟨out', h⟩
    exact ⟨first, ⟨s'.octets, heq.symm⟩, hfirst.ne_nil, hfirst.level⟩
  · rintro ⟨level, hlevel, hne, hclosed⟩
    obtain ⟨first, ⟨rest, heq⟩, hfirst⟩ := exists_firstLevel hlevel hne hclosed
    have hok : ∃ out', copyNested s out = .ok (out', ⟨s.offset + first.length, rest⟩) :=
      (copyNested_eq_ok_iff hb hhead).mpr ⟨first, heq.symm, hfirst, rfl⟩
    obtain ⟨out', h⟩ := hok
    exact ⟨_, h⟩
  · intro pre hpre hne hopen
    obtain ⟨tail, heq⟩ := List.head?_eq_some_iff.mp hhead
    rw [heq] at hpre
    rcases List.prefix_cons_iff.mp hpre with rfl | ⟨pre, rfl, -⟩
    · exact absurd rfl hne
    · exact exists_walk_opening hb hopen

/-- A step does the same with a store and without, and takes what it stores: after white space the
octets of a value, or all that it goes over. Strings are gone over to the first quote that no
backslash hides, and brackets with the shortest stretch that closes as many as it opens. -/
theorem steps_exactly (s : Rest) :
    Takes s (s.octets.takeWhile Ascii.isBlank) (copyValue s) ∧ Takes s [] (copyString s) ∧
    Takes s [] (copyNested s) ∧
    (∀ out s', (∃ out', copyString s out = .ok (out', s')) ↔
      ∃ b key, s.octets = b :: (key ++ s'.octets) ∧ ClosedAfter [] key ∧
        s'.offset = s.offset + (key.length + 1)) ∧
    ((∃ b, s.octets.head? = some b ∧ Opening b) → StepsOver s) := by
  refine ⟨takes_copyValue s, takes_copyString s, takes_copyNested s, ?_, ?_⟩
  · exact fun out s' => copyString_eq_ok_iff
  · rintro ⟨b, hhead, hb⟩
    exact stepsOver hb hhead

/-- Brackets of the wrong shape in a string that a backslash keeps open, and one of the wrong shape
that closes the first: what is stepped over is no JSON. -/
theorem steps_exactly_mismatched :
    ∃ text : Bytes, text = Utf8.encode "[\"]\\\"\x7d\"\x7d]" ∧
      (∃ b, text.head? = some b ∧ Opening b) ∧ StepsOver ⟨7, text⟩ ∧
      copyNested ⟨7, text⟩ (some []) =
        .ok (some (Utf8.encode "[\"]\\\"\x7d\"\x7d").reverse, ⟨15, [Ascii.closeBracket]⟩) := by
  have hopen : ∃ b, (Utf8.encode "[\"]\\\"\x7d\"\x7d]").head? = some b ∧ Opening b :=
    ⟨Ascii.openBracket, by decide +kernel, Or.inr rfl⟩
  have hsteps := steps_exactly ⟨7, Utf8.encode "[\"]\\\"\x7d\"\x7d]"⟩
  exact ⟨_, rfl, hopen, hsteps.2.2.2.2 hopen, by decide +kernel⟩

end RemoteSql.Payload
