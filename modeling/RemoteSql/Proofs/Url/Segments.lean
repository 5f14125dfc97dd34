import Mathlib
import RemoteSql.Proofs.Url.Path
import RemoteSql.Url.Basic

/-!
# Segments below a URL

A path cut at its slashes gives its segments. Segments that are added to the path of a URL follow
those that it has, except for an empty last one, and each of them is one segment of the whole.
-/

namespace RemoteSql

namespace Url

namespace Path

/-- A path without a slash at its end. -/
def stem (path : List Char) : List Char := if endsWithSlash path then path.dropLast else path

/-- What a path has between its slashes, without an empty last part. -/
def ownParts (path : List Char) : List (List Char) :=
  let parts := path.splitOn '/'
  if parts.getLast? = some [] then parts.dropLast else parts

theorem endsWithSlash_iff {path : List Char} :
    endsWithSlash path = true ↔ ∃ front, path = front ++ ['/'] := by
  rw [endsWithSlash, beq_iff_eq, List.getLast?_eq_some_iff]

theorem ownParts_eq {path : List Char} (h : '/' ∈ path) :
    ownParts path = (stem path).splitOn '/' := by
  unfold ownParts stem
  dsimp only
  by_cases hslash : endsWithSlash path = true
  · obtain ⟨front, rfl⟩ := endsWithSlash_iff.mp hslash
    have hsplit : (front ++ ['/']).splitOn '/' = front.splitOn '/' ++ [[]] :=
      List.splitOn_append_cons_self front []
    rw [if_pos hslash, hsplit, if_pos (by simp), List.dropLast_concat, List.dropLast_concat]
  · -- behind the last slash something stands
    obtain ⟨back, front, hpath, hback⟩ := List.eq_append_cons_of_mem (List.mem_reverse.mpr h)
    have hpath' : path = front.reverse ++ '/' :: back.reverse := by
      rw [← List.reverse_reverse path, hpath]
      simp
    have hne : back.reverse ≠ [] := by
      intro hnil
      exact hslash (endsWithSlash_iff.mpr ⟨front.reverse, by rw [hpath', hnil]⟩)
    have hlast : back.reverse.splitOn '/' = [back.reverse] :=
      List.splitOn_eq_singleton (by simpa using hback)
    have hsplit : path.splitOn '/' = front.reverse.splitOn '/' ++ [back.reverse] := by
      rw [hpath', List.splitOn_append_cons_self, hlast]
    rw [if_neg hslash, hsplit, if_neg (by simpa using hne)]

/-- Segments as they are written, each behind a slash. -/
def spelled (segments : List String) : List Char :=
  segments.flatMap fun segment => '/' :: encode EncodeSet.specialSegment segment.toList

theorem slash_not_mem_encode (cs : List Char) : '/' ∉ encode EncodeSet.specialSegment cs :=
  not_mem_encode (by decide) rfl (by decide) cs

theorem splitOn_spelled (front : List Char) (segments : List String) :
    (front ++ spelled segments).splitOn '/' = front.splitOn '/' ++
      segments.map fun segment => encode EncodeSet.specialSegment segment.toList := by
  induction segments generalizing front with
  | nil => simp [spelled]
  | cons segment segments ih =>
    have hspelled : front ++ spelled (segment :: segments) =
        (front ++ '/' :: encode EncodeSet.specialSegment segment.toList) ++ spelled segments := by
      simp [spelled]
    rw [hspelled, ih, List.splitOn_append_cons_self,
      List.splitOn_eq_singleton (slash_not_mem_encode segment.toList), List.append_assoc]
    rfl

theorem free_spelled (segments : List String) : Free pathMarks (spelled segments) := by
  induction segments with
  | nil => exact .nil
  | cons segment segments ih =>
    exact .append (.cons (by decide) (.encode (by decide) _)) ih

theorem Rooted.append_spelled {path : List Char} (h : Rooted path) (segment : String)
    (segments : List String) : Rooted (stem path ++ spelled (segment :: segments)) := by
  by_cases hstem : stem path = []
  · rw [hstem]
    exact ⟨⟨_, rfl⟩, free_spelled _⟩
  · refine Rooted.append (h.of_prefix_ne_nil ?_ hstem) (free_spelled _)
    unfold stem
    split
    · exact List.dropLast_prefix path
    · exact List.prefix_refl path

end Path

variable {u : Url} {segments : List String}

theorem foldl_push {path : List Char} (hpath : 2 ≤ path.length)
    (hkept : ∀ segment ∈ segments, Path.Kept segment) :
    segments.foldl (fun path segment => Path.push true path segment.toList) path =
      path ++ Path.spelled segments := by
  induction segments generalizing path with
  | nil => simp [Path.spelled]
  | cons segment segments ih =>
    have hpush : Path.push true path segment.toList =
        path ++ '/' :: encode EncodeSet.specialSegment segment.toList := by
      rw [Path.push_kept (hkept segment (by simp)), if_neg (by omega)]
      simp
    rw [List.foldl_cons, hpush, ih (by simp; omega) fun s hs => hkept s (by simp [hs])]
    simp [Path.spelled]

/-- Segments are written behind a path that has lost the slash at its end. Behind a lone slash an
empty segment would be lost, and of two slashes the empty segment between them is. -/
theorem path_extend (hfile : isFile u.scheme = false) (hspecial : isSpecial u.scheme = true)
    (hpath : Path.Rooted u.path) (hroot : u.path ≠ ['/', '/']) {segment : String}
    (hsegment : segment ≠ "") (hkept : ∀ s ∈ segment :: segments, Path.Kept s) :
    (u.extend (segment :: segments)).path =
      Path.stem u.path ++ Path.spelled (segment :: segments) := by
  have hstep : (u.extend (segment :: segments)).path =
      (segment :: segments).foldl (fun path segment => Path.push true path segment.toList)
        (Path.popIfEmpty u.path) := by
    unfold extend
    simp [hfile, hspecial]
  rw [hstep]
  obtain ⟨rest, hrest⟩ := hpath.head
  by_cases hsingle : u.path = ['/']
  · -- the first segment is put directly behind a lone slash
    have hencode : encode EncodeSet.specialSegment segment.toList ≠ [] :=
      encode_ne_nil (fun h => hsegment (String.toList_inj.mp h)) _
    have hlength := List.length_pos_iff.mpr hencode
    have hpush : Path.push true ['/'] segment.toList =
        '/' :: encode EncodeSet.specialSegment segment.toList := by
      rw [Path.push_kept (hkept segment (by simp))]
      rfl
    have hpop : Path.popIfEmpty ['/'] = ['/'] := rfl
    rw [hsingle, hpop, List.foldl_cons, hpush, foldl_push (by simp; omega)
      fun s hs => hkept s (by simp [hs])]
    simp [Path.spelled, Path.stem, Path.endsWithSlash]
  · have hlength : 2 ≤ u.path.length := by
      rw [hrest] at hsingle ⊢
      cases rest with
      | nil => exact absurd rfl hsingle
      | cons c rest => simp
    have hpop : Path.popIfEmpty u.path = Path.stem u.path := by
      unfold Path.popIfEmpty Path.stem
      simp only [show 1 < u.path.length by omega, decide_true, Bool.true_and]
    have hstem : 2 ≤ (Path.stem u.path).length := by
      unfold Path.stem
      split
      · next hslash =>
        obtain ⟨front, hfront⟩ := Path.endsWithSlash_iff.mp hslash
        rw [hfront, List.dropLast_concat]
        rw [hfront] at hlength hroot hrest
        rcases front with - | ⟨c, - | ⟨d, front⟩⟩
        · simp at hlength
        · cases hrest
          exact absurd rfl hroot
        · simp
      · exact hlength
    rw [hpop, foldl_push hstem hkept]

end Url

end RemoteSql
