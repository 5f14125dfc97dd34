import Mathlib
import RemoteSql.Proofs.Url.Encoding

/-!
# Paths

The path of a URL that was read begins with a slash and holds no mark that ends it, whatever dots
were worked off on the way. A segment that is pushed stands behind it as it is encoded, unless it is
taken for a dot or something in it is dropped.
-/

namespace RemoteSql.Url

/-- The marks that end a path. -/
def pathMarks : List Char := ['?', '#']

namespace Path

/-- A path that begins with a slash and holds no mark that ends it. -/
structure Rooted (path : List Char) : Prop where
  head : ∃ rest, path = '/' :: rest
  free : Free pathMarks path

variable {path segment cs : List Char}

theorem Rooted.append (h : Rooted path) (hcs : Free pathMarks cs) : Rooted (path ++ cs) := by
  obtain ⟨rest, rfl⟩ := h.head
  exact ⟨⟨rest ++ cs, rfl⟩, h.free.append hcs⟩

theorem Rooted.of_prefix_ne_nil (h : Rooted path) (hcs : cs <+: path) (hne : cs ≠ []) : Rooted cs := by
  obtain ⟨rest, rfl⟩ := h.head
  obtain ⟨c, cs, rfl⟩ := List.exists_cons_of_ne_nil hne
  obtain ⟨rfl, -⟩ := List.cons_prefix_cons.mp hcs
  exact ⟨⟨cs, rfl⟩, h.free.of_subset hcs.subset⟩

theorem upToSlash_prefix_self (path : List Char) : upToSlash path <+: path := by
  rw [upToSlash, ← List.reverse_suffix, List.reverse_reverse]
  exact List.dropWhile_suffix _

theorem dropSlash_prefix_self (path : List Char) : dropSlash path <+: path := by
  unfold dropSlash
  dsimp only
  split
  · exact List.dropLast_prefix path
  · exact List.prefix_refl path

theorem upToSlash_ne_nil (h : '/' ∈ path) : upToSlash path ≠ [] := by
  unfold upToSlash
  simp only [ne_eq, List.reverse_eq_nil_iff, List.dropWhile_eq_nil_iff, List.mem_reverse, bne_iff_ne]
  intro hall
  exact hall '/' h rfl

theorem Rooted.upToSlash (h : Rooted path) : Rooted (upToSlash path) := by
  refine h.of_prefix_ne_nil (upToSlash_prefix_self path) (upToSlash_ne_nil ?_)
  obtain ⟨rest, rfl⟩ := h.head
  exact List.mem_cons_self

theorem Rooted.dropSlash (h : Rooted path) : Rooted (dropSlash path) := by
  refine h.of_prefix_ne_nil (dropSlash_prefix_self path) ?_
  obtain ⟨rest, rfl⟩ := h.head
  unfold Path.dropSlash
  dsimp only
  split
  · next hdrop =>
    intro hnil
    rw [hnil] at hdrop
    simp at hdrop
  · simp

theorem Rooted.withSlash (h : Rooted path) : Rooted (withSlash path) := by
  unfold Path.withSlash
  split
  · exact h
  · exact h.append (.cons (by decide) .nil)

theorem Rooted.close (h : Rooted path) (hsegment : Free pathMarks segment) (slash : Bool) :
    Rooted (close path segment slash) := by
  have hslash : Free pathMarks ['/'] := .cons (by decide) .nil
  unfold Path.close
  split
  · dsimp only
    split
    · exact h.dropSlash.upToSlash.withSlash
    · exact h.dropSlash.upToSlash
  · split
    · exact h.withSlash
    · split
      · exact (h.append hsegment).append hslash
      · exact h.append hsegment

theorem Rooted.read {special file : Bool} (h : Rooted path) (hsegment : Free pathMarks segment)
    (cs : List Char) : Rooted (read special file path segment cs).1 := by
  have hreverse : ∀ {cs : List Char}, Free pathMarks cs → Free pathMarks cs.reverse := fun h =>
    h.of_subset fun c hc => List.mem_reverse.mp hc
  fun_induction Path.read special file path segment cs with
  | case1 path segment => exact h.close (hreverse hsegment) false
  | case2 path segment c rest hignored cut ih =>
    refine ih h ?_
    split
    · exact .cons (by decide) hsegment
    · exact hsegment
  | case3 path segment c rest hignored hend => exact h.close (hreverse hsegment) false
  | case4 path segment c rest hignored hend hslash ih =>
    exact ih (h.close (hreverse hsegment) true) .nil
  | case5 path segment c rest hignored hend hslash ih =>
    refine ih h (Free.append (hreverse ?_) hsegment)
    have hencode : Free pathMarks (encode EncodeSet.path [c]) := .encode (by decide) [c]
    simpa [Url.encode] using hencode

/-! ## Segments that are added -/

/-- A segment that holds no tab and no line break, of which nothing is dropped, and that is not
worked off as a dot or two dots. -/
structure Kept (segment : String) : Prop where
  ne_dot : segment ≠ "."
  ne_dots : segment ≠ ".."
  free : Free ['\t', '\n', '\r'] segment.toList

theorem any_isIgnored_eq_false_iff :
    cs.any isIgnored = false ↔ Free ['\t', '\n', '\r'] cs := by
  have hignored : ∀ c, isIgnored c = false ↔ c ≠ '\t' ∧ c ≠ '\n' ∧ c ≠ '\r' := by
    intro c
    simp [isIgnored, and_assoc]
  simp only [List.any_eq_false, Bool.not_eq_true, hignored, Free, List.forall_mem_cons]
  grind

instance (segment : String) : Decidable (Kept segment) :=
  decidable_of_iff
    (segment ≠ "." ∧ segment ≠ ".." ∧ segment.toList.any isIgnored = false)
    ⟨fun h => ⟨h.1, h.2.1, any_isIgnored_eq_false_iff.mp h.2.2⟩,
      fun h => ⟨h.ne_dot, h.ne_dots, any_isIgnored_eq_false_iff.mpr h.free⟩⟩

theorem not_singleDot_encode {cs : List Char} (h : cs ≠ ['.']) :
    isSingleDot (encode EncodeSet.specialSegment cs) = false := by
  rw [isSingleDot, plainDots_encode (by decide) (by decide), beq_eq_false_iff_ne]
  intro hdot
  have hencode : encode EncodeSet.specialSegment ['.'] = ['.'] := by decide
  exact h (eq_of_encode_eq (by decide) (hdot.trans hencode.symm))

theorem not_doubleDot_encode {cs : List Char} (h : cs ≠ ['.', '.']) :
    isDoubleDot (encode EncodeSet.specialSegment cs) = false := by
  rw [isDoubleDot, plainDots_encode (by decide) (by decide), beq_eq_false_iff_ne]
  intro hdots
  have hencode : encode EncodeSet.specialSegment ['.', '.'] = ['.', '.'] := by decide
  exact h (eq_of_encode_eq (by decide) (hdots.trans hencode.symm))

theorem push_kept {segment : String} (h : Kept segment) (path : List Char) :
    push true path segment.toList =
      (if path.length = 1 then path else path ++ ['/']) ++
        encode EncodeSet.specialSegment segment.toList := by
  have hdot : segment.toList ≠ ['.'] := fun heq => h.ne_dot (String.toList_inj.mp heq)
  have hdots : segment.toList ≠ ['.', '.'] := fun heq => h.ne_dots (String.toList_inj.mp heq)
  have hfilter : segment.toList.filter (fun c => !isIgnored c) = segment.toList := by
    refine List.filter_eq_self.mpr fun c hc => ?_
    have hignored := List.any_eq_false.mp (any_isIgnored_eq_false_iff.mpr h.free) c hc
    simpa using hignored
  unfold push
  rw [if_neg (by simp [hdot, hdots]), hfilter]
  simp only [if_true]
  rw [close, if_neg (by simp [not_doubleDot_encode hdots]),
    if_neg (by simp [not_singleDot_encode hdot]), if_neg (by simp)]

end Path

end RemoteSql.Url
