import Mathlib
import RemoteSql.Proofs.Decimal.Whole
import RemoteSql.Proofs.Fallible
import RemoteSql.Proofs.Url.Path
import RemoteSql.Text.Basic
import RemoteSql.Url.Parser

/-!
# URLs that were parsed

In a URL of the web that was parsed no part holds a mark at which it would end: no slash stands in
the authority, no question mark in the path and no number sign in the query, whatever names the host.
-/

namespace RemoteSql.Url

/-- The marks that end an authority. -/
def authorityMarks : List Char := ['/', '?', '#']

/-! ## Authorities -/

theorem free_toString (n : Nat) : Free authorityMarks (toString n).toList := by
  refine Free.of_all (p := Char.isDigit) ?_ (by decide)
  have hdigits : (toString n).toList = Nat.toDigits 10 n := Nat.toList_repr
  rw [hdigits]
  exact fun c hc => Decimal.isDigit_of_mem_toDigits hc

theorem free_intercalate {marks : List Char} {mark : String} (hmark : Free marks mark.toList)
    {ss : List String} (h : ∀ s ∈ ss, Free marks s.toList) :
    Free marks (mark.intercalate ss).toList := by
  rw [String.toList_intercalate]
  induction ss with
  | nil => exact .nil
  | cons s ss ih =>
    have hs : Free marks s.toList := h s List.mem_cons_self
    cases ss with
    | nil => simpa using hs
    | cons s' ss =>
      rw [List.map_cons, List.map_cons, List.intercalate_cons_cons]
      exact (hs.append hmark).append (ih fun t ht => h t (List.mem_cons_of_mem s ht))

theorem exists_digit_of_mem_toDigits {n : Nat} {c : Char} (h : c ∈ Nat.toDigits 16 n) :
    ∃ d < 16, c = Nat.digitChar d := by
  induction n using Nat.strongRecOn with
  | ind n ih =>
    rw [Nat.toDigits_eq_if (by decide)] at h
    split at h
    · next hn => exact ⟨n, hn, List.mem_singleton.mp h⟩
    · next hn =>
      rcases List.mem_append.mp h with h | h
      · exact ih (n / 16) (by omega) h
      · exact ⟨n % 16, by omega, List.mem_singleton.mp h⟩

theorem Ipv6.free_groupText (n : Nat) : Free authorityMarks (groupText n).toList := by
  refine Free.of_all (p := fun c => (hexDigit? c).isSome) ?_ (by decide)
  intro c hc
  rw [groupText, String.toList_ofList] at hc
  obtain ⟨d, hd, rfl⟩ := exists_digit_of_mem_toDigits hc
  have hall : ∀ d < 16, (hexDigit? (Nat.digitChar d)).isSome = true := by decide
  exact hall d hd

theorem Ipv6.free_joined (groups : List Nat) : Free authorityMarks (joined groups).toList := by
  refine free_intercalate (.cons (by decide) .nil) ?_
  intro s hs
  obtain ⟨n, -, rfl⟩ := List.mem_map.mp hs
  exact free_groupText n

theorem Ipv6.free_render (groups : List Nat) : Free authorityMarks (render groups) := by
  unfold render
  split
  · exact free_joined groups
  · rw [String.toList_append, String.toList_append]
    exact ((free_joined _).append (.cons (by decide) (.cons (by decide) .nil))).append (free_joined _)

theorem Ipv4.free_render (n : Nat) : Free authorityMarks (render n) := by
  refine free_intercalate (.cons (by decide) .nil) ?_
  intro s hs
  obtain ⟨i, -, rfl⟩ := List.mem_map.mp hs
  exact free_toString _

theorem Host.free_bracketed {cs host : List Char} (h : Host.bracketed cs = .ok host) :
    Free authorityMarks host := by
  unfold Host.bracketed at h
  split at h
  · cases h
  · split at h
    · cases h
    · cases h
      exact .cons (by decide) (.append (Ipv6.free_render _) (.cons (by decide) .nil))

theorem Host.free_domain {cs host : List Char} (h : Host.domain cs = .ok host) :
    Free authorityMarks host := by
  unfold Host.domain at h
  split at h
  · cases h
  · next name hname =>
    split at h
    · cases h
    · next hallowed =>
      split at h
      · cases h
      · split at h
        · split at h
          · cases h
          · cases h
            exact Ipv4.free_render _
        · cases h
          refine Free.of_all (p := fun c => !Host.isForbidden c) ?_ (by decide)
          simpa using hallowed

theorem Host.free_special {cs host : List Char} (h : Host.special cs = .ok host) :
    Free authorityMarks host := by
  unfold Host.special at h
  split at h
  · exact Host.free_bracketed h
  · exact Host.free_domain h

theorem free_credentialChars (cs : List Char) : Free authorityMarks (credentialChars cs) := by
  have hencode : ∀ cs, Free authorityMarks (encode EncodeSet.userinfo cs) := .encode (by decide)
  have hat : Free authorityMarks ['@'] := .cons (by decide) .nil
  unfold credentialChars
  dsimp only
  split
  · exact .nil
  · split
    · exact (hencode _).append hat
    · exact ((hencode _).append (.cons (by decide) (hencode _))).append hat

theorem free_of_readPort {scheme : String} {cs port rest : List Char}
    (h : readPort scheme cs = .ok (port, rest)) : Free authorityMarks port := by
  unfold readPort at h
  dsimp only at h
  split at h
  · split at h
    · cases h
    · split at h
      · cases h
        exact .nil
      · cases h
        exact .cons (by decide) (free_toString _)
  · cases h

theorem free_of_readHostAndPort {scheme : String} {cs host rest : List Char}
    (hspecial : isSpecial scheme = true) (h : readHostAndPort scheme cs = .ok (host, rest)) :
    Free authorityMarks host := by
  unfold readHostAndPort at h
  simp only [hspecial, if_true, Bool.and_true] at h
  split at h
  · cases h
  · obtain ⟨name, hname, h⟩ := exists_of_bind_eq_ok h
    have hfree := Host.free_special hname
    split at h
    · cases h
      exact hfree
    · split at h
      · cases h
      · obtain ⟨⟨port, after⟩, hport, h⟩ := exists_of_bind_eq_ok h
        cases h
        exact hfree.append (free_of_readPort hport)

theorem free_of_readAuthority {scheme : String} {cs authority rest : List Char} {followed : Bool}
    (hspecial : isSpecial scheme = true)
    (h : readAuthority scheme cs followed = .ok (authority, rest)) :
    Free authorityMarks authority := by
  unfold readAuthority at h
  split at h
  · exact free_of_readHostAndPort hspecial h
  · dsimp only at h
    split at h
    · cases h
    · obtain ⟨⟨host, after⟩, hhost, h⟩ := exists_of_bind_eq_ok h
      dsimp only at h
      split at h
      · cases h
      · cases h
        exact (free_credentialChars _).append (free_of_readHostAndPort hspecial hhost)

/-! ## Whole URLs -/

/-- A URL that is divided by its marks: none of them stands where it would end a part too early. -/
structure Divided (u : Url) : Prop where
  authority : ∃ authority, u.authority = some authority ∧ Free authorityMarks authority
  path : Path.Rooted u.path
  query : ∀ query, u.query = some query → Free ['#'] query
  hasSegments : u.hasSegments = true

theorem scheme_readTail (u : Url) (cs : List Char) : (readTail u cs).scheme = u.scheme := by
  unfold readTail
  dsimp only
  split <;> rfl

theorem scheme_readPath (scheme : String) (authority : Option (List Char)) (path cs : List Char) :
    (readPath scheme authority path cs).scheme = scheme := scheme_readTail _ _

theorem scheme_readRooted (scheme : String) (authority : Option (List Char)) (cs : List Char) :
    (readRooted scheme authority cs).scheme = scheme := by
  unfold readRooted
  dsimp only
  split
  · exact scheme_readPath _ _ _ _
  · split
    · exact scheme_readPath _ _ _ _
    · split <;> exact scheme_readPath _ _ _ _
  · exact scheme_readPath _ _ _ _

theorem Divided.readTail {u : Url} (h : Divided u) (hquery : u.query = none) (cs : List Char) :
    Divided (readTail u cs) := by
  unfold Url.readTail
  dsimp only
  split
  · refine ⟨h.authority, h.path, ?_, h.hasSegments⟩
    intro query heq
    obtain rfl := Option.some.inj heq
    split
    · exact .encode (by decide) _
    · exact .encode (by decide) _
  · refine ⟨h.authority, h.path, ?_, h.hasSegments⟩
    intro query heq
    rw [show u.query = some query from heq] at hquery
    cases hquery
  · exact h

section Web

variable {scheme : String} {authority : List Char} {u : Url} {cs : List Char}

theorem divided_readPath (hfile : isFile scheme = false) (hauthority : Free authorityMarks authority)
    {path : List Char} (hpath : Path.Rooted path) (cs : List Char) :
    Divided (readPath scheme (some authority) path cs) := by
  have hread : Path.Rooted (Path.read (isSpecial scheme) (isFile scheme) path [] cs).1 :=
    hpath.read .nil cs
  unfold readPath
  dsimp only
  rw [if_neg (by simp [hfile])]
  exact Divided.readTail ⟨⟨authority, rfl, hauthority⟩, hread, by simp, rfl⟩ rfl _

theorem divided_readRooted (hfile : isFile scheme = false) (hspecial : isSpecial scheme = true)
    (hauthority : Free authorityMarks authority) (cs : List Char) :
    Divided (readRooted scheme (some authority) cs) := by
  have hroot : Path.Rooted ['/'] := ⟨⟨[], rfl⟩, .cons (by decide) .nil⟩
  have hread := divided_readPath hfile hauthority hroot
  unfold readRooted
  simp only [hspecial, Bool.true_and, Bool.not_true, Bool.false_and, Bool.false_eq_true, if_false,
    if_true]
  split
  · exact hread _
  · split <;> exact hread _
  · exact hread _

theorem divided_readWithAuthority (hfile : isFile scheme = false)
    (hspecial : isSpecial scheme = true) (h : readWithAuthority scheme cs = .ok u) : Divided u := by
  unfold readWithAuthority at h
  obtain ⟨⟨authority, begun⟩, hauthority, h⟩ := exists_of_bind_eq_ok h
  cases h
  exact divided_readRooted hfile hspecial (free_of_readAuthority hspecial hauthority) _

end Web

theorem scheme_readWithAuthority {scheme : String} {cs : List Char} {u : Url}
    (h : readWithAuthority scheme cs = .ok u) : u.scheme = scheme := by
  unfold readWithAuthority at h
  obtain ⟨⟨authority, begun⟩, -, h⟩ := exists_of_bind_eq_ok h
  cases h
  exact scheme_readRooted _ _ _

theorem scheme_readOther {scheme : String} {cs : List Char} {u : Url}
    (h : readOther scheme cs = .ok u) : u.scheme = scheme := by
  unfold readOther at h
  split at h
  · split at h
    · exact scheme_readWithAuthority h
    · cases h
      exact scheme_readPath _ _ _ _
  · cases h
    exact scheme_readTail _ _

theorem scheme_readFilePath (host cs : List Char) : (readFilePath host cs).scheme = "file" := by
  unfold readFilePath
  split <;> exact scheme_readPath _ _ _ _

theorem scheme_readFileWithHost {cs : List Char} {u : Url} (h : readFileWithHost cs = .ok u) :
    u.scheme = "file" := by
  unfold readFileWithHost at h
  dsimp only at h
  split at h
  · cases h
    exact scheme_readFilePath _ _
  · split at h
    all_goals
      obtain ⟨host, -, h⟩ := exists_of_bind_eq_ok h
      split at h
      · cases h
        exact scheme_readPath _ _ _ _
      · split at h <;> cases h <;> exact scheme_readFilePath _ _

theorem scheme_readFile {cs : List Char} {u : Url} (h : readFile cs = .ok u) :
    u.scheme = "file" := by
  unfold readFile at h
  split at h
  · split at h
    · split at h
      · split at h
        · exact scheme_readFileWithHost h
        · cases h
          exact scheme_readPath _ _ _ _
      · cases h
        exact scheme_readPath _ _ _ _
    · cases h
      exact scheme_readFilePath _ _
  · cases h
    exact scheme_readFilePath _ _

theorem exists_letter_of_readScheme {cs : List Char} {p : String × List Char}
    (h : readScheme cs = some p) : ∃ c ∈ cs, c.isAlpha = true := by
  unfold readScheme at h
  dsimp only at h
  split at h
  · next c name rest hname hrest =>
    split at h
    · next hletter =>
      have hc : c ∈ significant (cs.takeWhile fun c => isSchemeChar c || isIgnored c) := by
        rw [hname]
        exact List.mem_cons_self
      exact ⟨c, List.takeWhile_subset _ (List.mem_of_mem_filter hc), hletter⟩
    · cases h
  · cases h

theorem not_isBlank_of_isAlpha {c : Char} (h : c.isAlpha = true) : Text.isBlank c = false := by
  have hrange : 65 ≤ c.toNat ∧ c.toNat ≤ 90 ∨ 97 ≤ c.toNat ∧ c.toNat ≤ 122 := by
    simpa [Char.isAlpha, Char.isUpper, Char.isLower, UInt32.le_iff_toNat_le] using h
  simp [Text.isBlank]
  omega

theorem isAllBlank_of_parse {s : String} {u : Url} (h : parse s = .ok u) :
    Text.isAllBlank s = false := by
  unfold parse at h
  split at h
  · cases h
  · next hscheme =>
    obtain ⟨c, hc, hletter⟩ := exists_letter_of_readScheme hscheme
    have hmem : c ∈ s.toList := by
      unfold trimmed at hc
      rw [List.mem_reverse] at hc
      have hc := List.mem_reverse.mp ((List.dropWhile_subset _) hc)
      exact List.dropWhile_subset _ hc
    rw [Text.isAllBlank, List.all_eq_false]
    exact ⟨c, hmem, by simp [not_isBlank_of_isAlpha hletter]⟩

/-- A URL of the web that was parsed is divided by its marks. -/
theorem divided_of_parse {s : String} {u : Url} (h : parse s = .ok u)
    (hweb : u.scheme = "http" ∨ u.scheme = "https") : Divided u := by
  unfold parse at h
  split at h
  · cases h
  · next scheme rest hscheme =>
    split at h
    · have hfile := scheme_readFile h
      rw [hfile] at hweb
      simp at hweb
    · next hfile =>
      split at h
      · next hspecial => exact divided_readWithAuthority (by simpa using hfile) hspecial h
      · next hspecial =>
        rw [scheme_readOther h] at hweb
        rcases hweb with rfl | rfl <;> exact absurd rfl hspecial

end RemoteSql.Url
