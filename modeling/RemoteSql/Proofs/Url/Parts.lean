import Mathlib
import RemoteSql.Proofs.Url.Parsed
import RemoteSql.Proofs.Url.Segments

/-!
# Parts of the text of a URL

Whoever gets the text of a URL cuts it at its marks: the fragment stands behind the first number
sign, before that the query behind the first question mark, before that the scheme up to the first
colon, and behind it the authority between two slashes and the next one, where the path begins. The
text of a URL of the web that was parsed falls into the parts that it was made of, and with segments
added to it only the path differs.
-/

namespace RemoteSql.Url

/-- A text before its first mark, and what stands behind that if there is one. -/
def cut (mark : Char) (cs : List Char) : List Char × Option (List Char) :=
  (cs.takeWhile (· != mark), match cs.dropWhile (· != mark) with
    | [] => none
    | _ :: rest => some rest)

structure Parts where
  scheme : List Char
  authority : List Char
  path : List Char
  query : Option (List Char)
  fragment : Option (List Char)

/-- The parts of a text between its marks. -/
def parts (text : String) : Parts :=
  let (text, fragment) := cut '#' text.toList
  let (text, query) := cut '?' text
  let (scheme, rest) := cut ':' text
  let rest := (rest.getD []).drop 2
  { scheme, query, fragment
    authority := rest.takeWhile (· != '/')
    path := rest.dropWhile (· != '/') }

theorem cut_append_marked {mark : Char} {cs : List Char} (h : mark ∉ cs)
    (rest : Option (List Char)) : cut mark (cs ++ marked mark rest) = (cs, rest) := by
  have hcs : ∀ c ∈ cs, (c != mark) = true := by
    intro c hc
    rw [bne_iff_ne]
    rintro rfl
    exact h hc
  unfold cut
  rw [List.takeWhile_append_of_pos hcs, List.dropWhile_append_of_pos hcs]
  cases rest <;> simp [marked]

theorem Divided.parts_render {u : Url} (h : Divided u)
    (hscheme : Free [':', '?', '#'] u.scheme.toList) :
    ∃ authority, u.authority = some authority ∧
      parts u.render = ⟨u.scheme.toList, authority, u.path, u.query, u.fragment⟩ := by
  obtain ⟨authority, hauthority, hfree⟩ := h.authority
  refine ⟨authority, hauthority, ?_⟩
  let rest := '/' :: '/' :: (authority ++ u.path)
  let lead := u.scheme.toList ++ marked ':' (some rest)
  have hchars : u.chars = (lead ++ marked '?' u.query) ++ marked '#' u.fragment := by
    simp [lead, rest, chars, beforePath, hauthority, marked]
  have hlead : Free pathMarks lead :=
    (hscheme.of_marks (by decide)).append <| .cons (by decide) <| .cons (by decide) <|
      .cons (by decide) <| (hfree.of_marks (by decide)).append h.path.free
  have hquery : Free ['#'] (marked '?' u.query) := by
    cases hq : u.query with
    | none => exact .nil
    | some query => exact .cons (by decide) (h.query query hq)
  -- the marks are cut at in the order in which a reader meets the ends of the parts
  have hfragment : cut '#' u.render.toList = (lead ++ marked '?' u.query, u.fragment) := by
    rw [render, String.toList_ofList, hchars]
    exact cut_append_marked (((hlead.of_marks (by decide)).append hquery) '#' (by decide)) _
  have hcut : cut '?' (lead ++ marked '?' u.query) = (lead, u.query) :=
    cut_append_marked (hlead '?' (by decide)) _
  have hcolon : cut ':' lead = (u.scheme.toList, some rest) :=
    cut_append_marked (hscheme ':' (by decide)) _
  have hslash : ∀ c ∈ authority, (c != '/') = true := by
    intro c hc
    rw [bne_iff_ne]
    rintro rfl
    exact hfree '/' (by decide) hc
  obtain ⟨tail, hpath⟩ := h.path.head
  have htake : (authority ++ u.path).takeWhile (· != '/') = authority := by
    rw [List.takeWhile_append_of_pos hslash, hpath]
    simp
  have hdrop : (authority ++ u.path).dropWhile (· != '/') = u.path := by
    rw [List.dropWhile_append_of_pos hslash, hpath]
    simp
  unfold parts
  simp only [hfragment, hcut, hcolon, Option.getD_some]
  simp [rest, htake, hdrop]

/-! ## Segments in the text -/

/-- A text leads below a URL by way of segments: it differs from the URL in its path alone, and this
goes on, behind what the URL has, with one part for each segment, which is decoded to it. -/
structure LeadsBelow (u : Url) (segments : List String) (text : String) : Prop where
  scheme_eq : (parts text).scheme = u.scheme.toList
  authority_eq : some (parts text).authority = u.authority
  query_eq : (parts text).query = u.query
  fragment_eq : (parts text).fragment = u.fragment
  path_eq : ∃ added, (parts text).path.splitOn '/' = Path.ownParts u.path ++ added ∧
    added.map (fun part => Utf8.decode? (decode part)) = segments.map some

theorem LeadsBelow.segments_eq {u : Url} {segments segments' : List String} {text text' : String}
    (h : LeadsBelow u segments text) (h' : LeadsBelow u segments' text')
    (hpath : (parts text).path = (parts text').path) : segments = segments' := by
  obtain ⟨added, hsplit, hadded⟩ := h.path_eq
  obtain ⟨added', hsplit', hadded'⟩ := h'.path_eq
  rw [hpath, hsplit'] at hsplit
  rw [List.append_cancel_left hsplit, hadded] at hadded'
  exact List.map_injective_iff.mpr (Option.some_injective String) hadded'

theorem Divided.extend {u : Url} (h : Divided u) {segments : List String}
    (hpath : Path.Rooted (u.extend segments).path) : Divided (u.extend segments) where
  authority := h.authority
  path := hpath
  query := h.query
  hasSegments := h.hasSegments

/-- Segments that are kept are found again in the text of the URL below. -/
theorem leadsBelow_render {u : Url} (h : Divided u) (hweb : u.scheme = "http" ∨ u.scheme = "https")
    (hroot : u.path ≠ ['/', '/']) {segment : String} {segments : List String}
    (hsegment : segment ≠ "") (hkept : ∀ s ∈ segment :: segments, Path.Kept s) :
    LeadsBelow u (segment :: segments) (u.extend (segment :: segments)).render := by
  have hscheme : isFile u.scheme = false ∧ isSpecial u.scheme = true ∧
      Free [':', '?', '#'] u.scheme.toList := by
    rcases hweb with hweb | hweb <;> rw [hweb] <;>
      exact ⟨rfl, by decide, by simp [Free]⟩
  obtain ⟨hfile, hspecial, hfree⟩ := hscheme
  have hslash : '/' ∈ u.path := by
    obtain ⟨rest, hrest⟩ := h.path.head
    rw [hrest]
    exact List.mem_cons_self
  have hextend := path_extend hfile hspecial h.path hroot hsegment hkept
  have hrooted : Path.Rooted (u.extend (segment :: segments)).path := by
    rw [hextend]
    exact h.path.append_spelled segment segments
  obtain ⟨authority, hauthority, hparts⟩ := (h.extend hrooted).parts_render hfree
  have hsplit : (u.extend (segment :: segments)).path.splitOn '/' = Path.ownParts u.path ++
      (segment :: segments).map fun s => encode EncodeSet.specialSegment s.toList := by
    rw [hextend, Path.splitOn_spelled, ← Path.ownParts_eq hslash]
  constructor
  · rw [hparts]
    rfl
  · rw [hparts]
    exact hauthority.symm
  · rw [hparts]
    rfl
  · rw [hparts]
    rfl
  · rw [hparts]
    refine ⟨_, hsplit, ?_⟩
    rw [List.map_map]
    exact List.map_congr_left fun s _ => decode?_decode_encode (by decide) s

end RemoteSql.Url
