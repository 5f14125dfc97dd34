import Mathlib
import RemoteSql.Proofs.Json.Number
import RemoteSql.Proofs.Json.Text
import RemoteSql.Proofs.Payload.Balance
import RemoteSql.Proofs.Payload.Token

/-!
# Text that writes a value

The text that a reader of values takes is one token for the scanner of a payload, it is balanced,
and it is read alike before any delimiter and with any room for nesting that is not smaller. The
proof follows the reader: strings, numbers and words by themselves, arrays and objects by induction
on the room for nesting.
-/

namespace RemoteSql.Json

open Payload (Balanced Quoted Token Plain)

/-- The ways in which a value is read from its first octet on. -/
inductive Form : Nat → UInt8 → Bytes → Json → Bytes → Prop
  | string {depth : Nat} {tail rest : Bytes} {s : String} (h : text tail = some (s, rest)) :
      Form depth Ascii.quote tail (.string s) rest
  | array {depth : Nat} {tail rest : Bytes} {vs : List Json}
      (h : items (value depth) Ascii.closeBracket tail = some (vs, rest)) :
      Form (depth + 1) Ascii.openBracket tail (.array vs) rest
  | object {depth : Nat} {tail rest : Bytes} {ms : List (String × Json)} {v : Json}
      (h : items (member (value depth)) Ascii.closeBrace tail = some (ms, rest))
      (hv : ofMembers? ms = some v) : Form (depth + 1) Ascii.openBrace tail v rest
  | yes {depth : Nat} {tail rest : Bytes} (h : afterTrue tail = some rest) :
      Form depth Ascii.lowerT tail (.bool true) rest
  | no {depth : Nat} {tail rest : Bytes} (h : afterFalse tail = some rest) :
      Form depth Ascii.lowerF tail (.bool false) rest
  | null {depth : Nat} {tail rest : Bytes} (h : afterNull tail = some rest) :
      Form depth Ascii.lowerN tail .null rest
  | number {depth : Nat} {b : UInt8} {tail rest : Bytes} {literal : String}
      (h : numberLiteral (b :: tail) = some (literal, rest)) :
      Form depth b tail (.number literal) rest

theorem exists_form {depth : Nat} {bs rest : Bytes} {v : Json}
    (h : value depth bs = some (v, rest)) :
    ∃ b tail, skipSpace bs = b :: tail ∧ Form depth b tail v rest := by
  rw [value.eq_def] at h
  dsimp only at h
  split at h
  · cases h
  · next b tail hskip =>
    refine ⟨b, tail, hskip, ?_⟩
    split at h
    · next hb =>
      subst hb
      obtain ⟨⟨s, rest'⟩, hs, heq⟩ := Option.map_eq_some_iff.mp h
      cases heq
      exact .string hs
    split at h
    · next hb =>
      subst hb
      cases depth with
      | zero => cases h
      | succ depth =>
        obtain ⟨⟨vs, rest'⟩, hs, heq⟩ := Option.map_eq_some_iff.mp h
        cases heq
        exact .array hs
    split at h
    · next hb =>
      subst hb
      cases depth with
      | zero => cases h
      | succ depth =>
        obtain ⟨⟨ms, rest'⟩, hs, hbind⟩ := Option.bind_eq_some_iff.mp h
        obtain ⟨v', hv, heq⟩ := Option.map_eq_some_iff.mp hbind
        cases heq
        exact .object hs hv
    split at h
    · next hb =>
      subst hb
      obtain ⟨rest', hs, heq⟩ := Option.map_eq_some_iff.mp h
      cases heq
      exact .yes hs
    split at h
    · next hb =>
      subst hb
      obtain ⟨rest', hs, heq⟩ := Option.map_eq_some_iff.mp h
      cases heq
      exact .no hs
    split at h
    · next hb =>
      subst hb
      obtain ⟨rest', hs, heq⟩ := Option.map_eq_some_iff.mp h
      cases heq
      exact .null hs
    · obtain ⟨⟨literal, rest'⟩, hs, heq⟩ := Option.map_eq_some_iff.mp h
      cases heq
      exact .number hs

theorem members?_eq_some_iff {v : Json} {members : Members} :
    v.members? = some members ↔ v = .object members := by
  cases v <;> simp [members?]

theorem items?_eq_some_iff {v : Json} {vs : List Json} :
    v.items? = some vs ↔ v = .array vs := by
  cases v <;> simp [items?]

/-- Members make up an object of which the last of each name counts, or else a number. -/
theorem ofMembers?_cases {ms : List (String × Json)} {v : Json} (h : ofMembers? ms = some v) :
    v = .object (SortedMap.ofList ms) ∨ ∃ literal, v = .number literal := by
  unfold ofMembers? at h
  split at h
  · cases h
    exact Or.inl rfl
  · split at h
    · split at h
      · obtain ⟨literal, -, rfl⟩ := Option.map_eq_some_iff.mp h
        exact Or.inr ⟨literal, rfl⟩
      · cases h
    · cases h
      exact Or.inl rfl

/-! ## What is read at a first octet -/

section Heads

variable (depth : Nat) (bs : Bytes)

theorem value_spaces {spaces : Bytes} (h : Spaces spaces) :
    value depth (spaces ++ bs) = value depth bs := by
  rw [value.eq_def, value.eq_def depth bs]
  dsimp only
  rw [skipSpace_append h]

theorem value_quote :
    value depth (Ascii.quote :: bs) = (text bs).map fun r => (.string r.1, r.2) := by
  rw [value.eq_def]
  rfl

theorem value_openBracket :
    value (depth + 1) (Ascii.openBracket :: bs) =
      (items (value depth) Ascii.closeBracket bs).map fun r => (.array r.1, r.2) := by
  rw [value.eq_def]
  rfl

theorem value_openBrace :
    value (depth + 1) (Ascii.openBrace :: bs) =
      (items (member (value depth)) Ascii.closeBrace bs).bind
        fun r => (ofMembers? r.1).map fun v => (v, r.2) := by
  rw [value.eq_def]
  rfl

theorem value_lowerT :
    value depth (Ascii.lowerT :: bs) = (afterTrue bs).map fun rest => (.bool true, rest) := by
  rw [value.eq_def]
  rfl

theorem value_lowerF :
    value depth (Ascii.lowerF :: bs) = (afterFalse bs).map fun rest => (.bool false, rest) := by
  rw [value.eq_def]
  rfl

theorem value_lowerN :
    value depth (Ascii.lowerN :: bs) = (afterNull bs).map fun rest => (.null, rest) := by
  rw [value.eq_def]
  rfl

theorem value_numeral {b : UInt8} (h : isNumeral b = true) :
    value depth (b :: bs) = (numberLiteral (b :: bs)).map fun r => (.number r.1, r.2) := by
  have hspecial : isSpace b = false ∧ b ≠ Ascii.quote ∧ b ≠ Ascii.openBracket ∧
      b ≠ Ascii.openBrace ∧ b ≠ Ascii.lowerT ∧ b ≠ Ascii.lowerF ∧ b ≠ Ascii.lowerN := by
    revert b
    decide +kernel
  obtain ⟨hspace, hquote, hbracket, hbrace, ht, hf, hn⟩ := hspecial
  have hskip : skipSpace (b :: bs) = b :: bs :=
    skipSpace_of_unspaced ((unspaced_cons b bs).mpr hspace)
  rw [value.eq_def]
  simp only [hskip, if_neg hquote, if_neg hbracket, if_neg hbrace, if_neg ht, if_neg hf, if_neg hn]

end Heads

theorem member_eq_some_iff {α : Type} {value : Bytes → Option (α × Bytes)} {bs rest : Bytes}
    {m : String × α} :
    member value bs = some (m, rest) ↔
      ∃ tail mid tail', skipSpace bs = Ascii.quote :: tail ∧ text tail = some (m.1, mid) ∧
        skipSpace mid = Ascii.colon :: tail' ∧ value tail' = some (m.2, rest) := by
  unfold member
  constructor
  · intro h
    split at h
    · next tail hquote =>
      obtain ⟨⟨name, mid⟩, htext, h⟩ := Option.bind_eq_some_iff.mp h
      dsimp only at h
      split at h
      · next tail' hcolon =>
        obtain ⟨⟨a, rest'⟩, hvalue, h⟩ := Option.bind_eq_some_iff.mp h
        cases h
        exact ⟨tail, mid, tail', hquote, htext, hcolon, hvalue⟩
      · cases h
    · cases h
  · rintro ⟨tail, mid, tail', hquote, htext, hcolon, hvalue⟩
    rw [hquote]
    refine Option.bind_eq_some_iff.mpr ⟨(m.1, mid), htext, ?_⟩
    dsimp only
    rw [hcolon]
    exact Option.bind_eq_some_iff.mpr ⟨(m.2, rest), hvalue, rfl⟩

/-! ## Values and members -/

/-- Octets that write a value, with as much room for nesting as is given. -/
structure Written (depth : Nat) (v : Json) (body : Bytes) : Prop where
  token : ∀ rest, Delimited rest → Token body rest
  balanced : Balanced body
  reads : ∀ depth', depth ≤ depth' → ∀ rest, Delimited rest →
    value depth' (body ++ rest) = some (v, rest)

/-- Octets that write a value, with white space before it. -/
def SpacedValue (depth : Nat) (v : Json) (text : Bytes) : Prop :=
  ∃ spaces body, text = spaces ++ body ∧ Spaces spaces ∧ Written depth v body

/-- Octets that write a member of an object, with white space before it. -/
inductive SpacedMember (depth : Nat) (m : String × Json) : Bytes → Prop
  | mk {spaces key gap tail : Bytes} (hspaces : Spaces spaces) (hkey : Quoted false key)
      (hname : ∀ rest, Json.text (key ++ rest) = some (m.1, rest)) (hgap : Spaces gap)
      (hvalue : SpacedValue depth m.2 tail) :
      SpacedMember depth m (spaces ++ Ascii.quote :: (key ++ (gap ++ Ascii.colon :: tail)))

theorem Written.ne_nil {depth : Nat} {v : Json} {body : Bytes} (h : Written depth v body) :
    body ≠ [] :=
  (h.token [] delimited_nil).ne_nil

theorem Written.skipSpace_eq {depth : Nat} {v : Json} {body : Bytes} (h : Written depth v body)
    (rest : Bytes) : skipSpace (body ++ rest) = body ++ rest := by
  have hbare := (h.token [] delimited_nil).bare rest
  exact skipSpace_of_unspaced fun b hb => isSpace_of_isBlank (hbare b hb)

namespace SpacedValue

variable {depth : Nat} {v : Json} {text : Bytes}

theorem balanced (h : SpacedValue depth v text) : Balanced text := by
  obtain ⟨spaces, body, rfl, hs, hw⟩ := h
  exact (Payload.balanced_spaces hs).append hw.balanced

theorem reads (h : SpacedValue depth v text) {depth' : Nat} (hle : depth ≤ depth') (rest : Bytes)
    (hrest : Delimited rest) : value depth' (text ++ rest) = some (v, rest) := by
  obtain ⟨spaces, body, rfl, hs, hw⟩ := h
  rw [List.append_assoc, value_spaces _ _ hs]
  exact hw.reads depth' hle rest hrest

theorem starting {close : UInt8} (hclose : Payload.endsScalar close = true) :
    Starting (SpacedValue depth) close := by
  rintro v - ⟨spaces, body, rfl, hs, hw⟩
  obtain ⟨b, tail, rfl⟩ := List.exists_cons_of_ne_nil hw.ne_nil
  have htoken := hw.token [] delimited_nil
  refine ⟨spaces, b, tail, rfl, hs, (Payload.bare_cons b _).mp (htoken.bare []), ?_, ?_⟩
  · rintro rfl
    cases htoken with
    | text => cases hclose
    | nested _ hb _ => rcases hb with rfl | rfl <;> cases hclose
    | scalar _ _ hbody _ =>
      rw [hbody b List.mem_cons_self] at hclose
      cases hclose
  · exact ⟨[], b :: tail, rfl, spaces_nil, hw⟩

end SpacedValue

namespace SpacedMember

variable {depth : Nat} {m : String × Json} {text : Bytes}

theorem balanced (h : SpacedMember depth m text) : Balanced text := by
  obtain ⟨hspaces, hkey, -, hgap, hvalue⟩ := h
  have hcolon := Payload.Balanced.cons (b := Ascii.colon) (by decide) hvalue.balanced
  have htail := (Payload.balanced_spaces hgap).append hcolon
  exact (Payload.balanced_spaces hspaces).append ((Payload.balanced_text hkey).append htail)

theorem reads (h : SpacedMember depth m text) {depth' : Nat} (hle : depth ≤ depth') (rest : Bytes)
    (hrest : Delimited rest) : member (value depth') (text ++ rest) = some (m, rest) := by
  obtain @⟨spaces, key, gap, tail, hspaces, -, hname, hgap, hvalue⟩ := h
  simp only [List.append_assoc, List.cons_append]
  refine member_eq_some_iff.mpr ⟨_, _, tail ++ rest, skipSpace_append hspaces _, hname _, ?_, ?_⟩
  · exact skipSpace_append hgap _
  · exact hvalue.reads hle rest hrest

theorem starting : Starting (SpacedMember depth) Ascii.closeBrace := by
  rintro m - @⟨spaces, key, gap, tail, hspaces, hkey, hname, hgap, hvalue⟩
  refine ⟨spaces, Ascii.quote, _, rfl, hspaces, by decide, by decide, ?_⟩
  exact .mk spaces_nil hkey hname hgap hvalue

end SpacedMember

/-! ## Every value that is read was written -/

section Forms

variable {depth : Nat}

theorem written_string {key : Bytes} {s : String} (hkey : Quoted false key)
    (hs : ∀ rest, text (key ++ rest) = some (s, rest)) :
    Written depth (.string s) (Ascii.quote :: key) where
  token rest _ := .text rest hkey
  balanced := Payload.balanced_text hkey
  reads depth' _ rest _ := by
    rw [List.cons_append, value_quote, hs]
    rfl

theorem written_array {vs : List Json} {text : Bytes}
    (h : Enclosed (SpacedValue depth) Ascii.closeBracket vs text) :
    Written (depth + 1) (.array vs) (Ascii.openBracket :: text) := by
  obtain ⟨inner, rfl, hinner⟩ :=
    Payload.exists_inner_of_enclosed (fun _ _ hitem => hitem.balanced) h
  refine ⟨?_, ?_, ?_⟩
  · intro rest _
    exact .nested rest (Or.inr rfl) (Payload.ends_brackets (Or.inr rfl) (Or.inr rfl) hinner)
  · exact Payload.balanced_brackets (Or.inr rfl) (Or.inr rfl) hinner
  · intro depth' hle rest hrest
    obtain ⟨room, rfl⟩ : ∃ room, depth' = room + 1 := ⟨depth' - 1, by omega⟩
    have hroom : depth ≤ room := Nat.le_of_succ_le_succ hle
    have hitems : items (value room) Ascii.closeBracket (inner ++ [Ascii.closeBracket] ++ rest) =
        some (vs, rest) :=
      items_of_enclosed (by decide) (by decide)
        (fun _ _ hitem rest hrest => hitem.reads hroom rest hrest)
        (SpacedValue.starting (by decide)) h rest
    rw [List.cons_append, value_openBracket, hitems]
    rfl

theorem written_object {ms : List (String × Json)} {v : Json} {text : Bytes}
    (h : Enclosed (SpacedMember depth) Ascii.closeBrace ms text) (hv : ofMembers? ms = some v) :
    Written (depth + 1) v (Ascii.openBrace :: text) := by
  obtain ⟨inner, rfl, hinner⟩ :=
    Payload.exists_inner_of_enclosed (fun _ _ hitem => hitem.balanced) h
  refine ⟨?_, ?_, ?_⟩
  · intro rest _
    exact .nested rest (Or.inl rfl) (Payload.ends_brackets (Or.inl rfl) (Or.inl rfl) hinner)
  · exact Payload.balanced_brackets (Or.inl rfl) (Or.inl rfl) hinner
  · intro depth' hle rest hrest
    obtain ⟨room, rfl⟩ : ∃ room, depth' = room + 1 := ⟨depth' - 1, by omega⟩
    have hroom : depth ≤ room := Nat.le_of_succ_le_succ hle
    have hitems : items (member (value room)) Ascii.closeBrace
        (inner ++ [Ascii.closeBrace] ++ rest) = some (ms, rest) :=
      items_of_enclosed (by decide) (by decide)
        (fun _ _ hitem rest hrest => hitem.reads hroom rest hrest) SpacedMember.starting h rest
    rw [List.cons_append, value_openBrace, hitems]
    simp [hv]

theorem written_scalar {v : Json} {b : UInt8} {body : Bytes}
    (hplain : ∀ b' ∈ b :: body, Plain b') (hends : ∀ b' ∈ b :: body, Payload.endsScalar b' = false)
    (hreads : ∀ depth' rest, Delimited rest →
      value depth' (b :: body ++ rest) = some (v, rest)) : Written depth v (b :: body) where
  token _ hrest :=
    .scalar (hplain b List.mem_cons_self).1 (hplain b List.mem_cons_self).2.1 hends hrest.fenced
  balanced := Payload.balanced_of_plain hplain
  reads depth' _ := hreads depth'

theorem plain_of_isNumeral {b : UInt8} (h : isNumeral b = true) : Plain b := by
  revert b
  decide +kernel

theorem exists_written_number {bs rest : Bytes} {literal : String}
    (h : numberLiteral bs = some (literal, rest)) (hrest : Delimited rest) :
    ∃ body, bs = body ++ rest ∧ Written depth (.number literal) body := by
  obtain ⟨body, rfl, hbody, hreads⟩ := takesNumerals_numberLiteral.exists_body h hrest
  refine ⟨body, rfl, ?_⟩
  cases body with
  | nil => cases hreads [] delimited_nil
  | cons b body =>
    refine written_scalar (fun b' hb' => plain_of_isNumeral (hbody b' hb'))
      (fun b' hb' => endsScalar_of_isNumeral (hbody b' hb')) ?_
    intro depth' rest' hrest'
    have hread := hreads rest' hrest'
    rw [List.cons_append] at hread ⊢
    rw [value_numeral depth' _ (hbody b List.mem_cons_self), hread]
    rfl

theorem exists_written_word {word tail rest : Bytes} {b : UInt8} {v : Json}
    (h : afterWord word tail = some rest)
    (hword : ∀ b' ∈ b :: word, Plain b' ∧ Payload.endsScalar b' = false)
    (hreads : ∀ depth' rest, value depth' (b :: (word ++ rest)) = some (v, rest)) :
    ∃ body, b :: tail = body ++ rest ∧ Written depth v body := by
  rw [afterWord_eq_some_iff] at h
  subst h
  refine ⟨b :: word, rfl, ?_⟩
  exact written_scalar (fun b' hb' => (hword b' hb').1) (fun b' hb' => (hword b' hb').2)
    fun depth' rest' _ => hreads depth' rest'

theorem exists_spacedMember {bs rest : Bytes} {m : String × Json}
    (hvalue : ∀ {bs v rest}, value depth bs = some (v, rest) → Delimited rest →
      ∃ text, bs = text ++ rest ∧ SpacedValue depth v text)
    (h : member (value depth) bs = some (m, rest)) (hrest : Delimited rest) :
    ∃ text, bs = text ++ rest ∧ SpacedMember depth m text := by
  obtain ⟨tail, mid, tail', hquote, htext, hcolon, hread⟩ := member_eq_some_iff.mp h
  obtain ⟨spaces, hbs, hspaces⟩ := exists_spaces bs
  obtain ⟨key, rfl, hkey, hname⟩ := exists_quoted_of_text htext
  obtain ⟨gap, hmid, hgap⟩ := exists_spaces mid
  obtain ⟨text, rfl, htail⟩ := hvalue hread hrest
  refine ⟨_, ?_, .mk hspaces hkey hname hgap htail⟩
  rw [hquote, hmid, hcolon] at hbs
  simpa using hbs

end Forms

/-- What is read as a value before a delimiter was written as one, with white space before it. -/
theorem exists_spacedValue {depth : Nat} {bs rest : Bytes} {v : Json}
    (h : value depth bs = some (v, rest)) (hrest : Delimited rest) :
    ∃ text, bs = text ++ rest ∧ SpacedValue depth v text := by
  induction depth using Nat.strong_induction_on generalizing bs rest v with
  | _ depth ih =>
    obtain ⟨b, tail, hskip, hform⟩ := exists_form h
    obtain ⟨spaces, hbs, hspaces⟩ := exists_spaces bs
    suffices hw : ∃ body, b :: tail = body ++ rest ∧ Written depth v body by
      obtain ⟨body, hbody, hw⟩ := hw
      exact ⟨spaces ++ body, by rw [hbs, hskip, hbody, List.append_assoc], spaces, body, rfl,
        hspaces, hw⟩
    cases hform with
    | string hs =>
      obtain ⟨key, rfl, hkey, hs⟩ := exists_quoted_of_text hs
      exact ⟨Ascii.quote :: key, rfl, written_string hkey hs⟩
    | @array depth _ _ vs hitems =>
      obtain ⟨text, rfl, henclosed⟩ := exists_enclosed_of_items (by decide)
        (fun bs v rest hv hrest => ih depth depth.lt_succ_self hv hrest) hitems
      exact ⟨Ascii.openBracket :: text, rfl, written_array henclosed⟩
    | @object depth _ _ ms _ hitems hv =>
      obtain ⟨text, rfl, henclosed⟩ := exists_enclosed_of_items (by decide)
        (fun bs m rest hm hrest => exists_spacedMember (ih depth depth.lt_succ_self) hm hrest)
        hitems
      exact ⟨Ascii.openBrace :: text, rfl, written_object henclosed hv⟩
    | yes hs =>
      apply exists_written_word hs (by decide +kernel)
      intro depth' rest'
      rw [value_lowerT, afterTrue, afterWord_eq_some_iff.mpr rfl]
      rfl
    | no hs =>
      apply exists_written_word hs (by decide +kernel)
      intro depth' rest'
      rw [value_lowerF, afterFalse, afterWord_eq_some_iff.mpr rfl]
      rfl
    | null hs =>
      apply exists_written_word hs (by decide +kernel)
      intro depth' rest'
      rw [value_lowerN, afterNull, afterWord_eq_some_iff.mpr rfl]
      rfl
    | number hs => exact exists_written_number hs hrest

/-! ## Texts that hold an object -/

/-- The members of the object that a text holds, in the order in which they are written. -/
def writtenMembers (bs : Bytes) : List (String × Json) :=
  match skipSpace bs with
  | Ascii.openBrace :: tail =>
    ((items (member (value (maxDepth - 1))) Ascii.closeBrace tail).map Prod.fst).getD []
  | _ => []

/-- A text that holds an object writes its members between two braces, with white space around
them. -/
theorem exists_object_of_parse? {bs : Bytes} {members : Members}
    (h : parse? bs = some (.object members)) :
    ∃ spaces text rest, bs = spaces ++ Ascii.openBrace :: (text ++ rest) ∧ Spaces spaces ∧
      Spaces rest ∧
      Enclosed (SpacedMember (maxDepth - 1)) Ascii.closeBrace (writtenMembers bs) text ∧
      ofMembers? (writtenMembers bs) = some (.object members) := by
  unfold parse? at h
  split at h
  · cases h
  · next v rest hread =>
    split at h
    · next hend =>
      cases h
      obtain ⟨spaces, hbs, hs⟩ := exists_spaces bs
      obtain ⟨spaces', hrest, hs'⟩ := exists_spaces rest
      rw [hend, List.append_nil] at hrest
      obtain ⟨depth, hdepth⟩ : ∃ depth, maxDepth = depth + 1 := ⟨126, rfl⟩
      rw [hdepth] at hread
      obtain ⟨b, tail, hskip, hform⟩ := exists_form hread
      cases hform with
      | @object _ _ _ ms _ hitems hv =>
        have hmembers : writtenMembers bs = ms := by
          rw [writtenMembers, hskip, hdepth]
          exact congrArg (fun r => (r.map Prod.fst).getD []) hitems
        obtain ⟨text, rfl, henclosed⟩ := exists_enclosed_of_items (by decide)
          (fun bs m rest hm hrest => exists_spacedMember exists_spacedValue hm hrest) hitems
        rw [hmembers, hdepth]
        exact ⟨spaces, text, rest, hskip ▸ hbs, hs, hrest ▸ hs', henclosed, hv⟩
    · cases h

/-- Of each name the member that is written last is the object's. -/
theorem exists_members_of_parse? {bs : Bytes} {members : Members}
    (h : parse? bs = some (.object members)) :
    ∃ spaces text rest, bs = spaces ++ Ascii.openBrace :: (text ++ rest) ∧ Spaces spaces ∧
      Enclosed (SpacedMember (maxDepth - 1)) Ascii.closeBrace (writtenMembers bs) text ∧
      members = SortedMap.ofList (writtenMembers bs) := by
  obtain ⟨spaces, text, rest, hbs, hs, -, henclosed, hv⟩ := exists_object_of_parse? h
  refine ⟨spaces, text, rest, hbs, hs, henclosed, ?_⟩
  rcases ofMembers?_cases hv with hv | ⟨literal, hv⟩
  · exact object.inj hv
  · cases hv

/-- White space around a value makes no difference. -/
theorem parse?_spaced {spaces body rest : Bytes} {v : Json} (hspaces : Spaces spaces)
    (hrest : Spaces rest) (h : Written maxDepth v body) :
    parse? (spaces ++ (body ++ rest)) = some v := by
  have hend : skipSpace rest = [] := by
    rw [← List.append_nil rest, skipSpace_append hrest]
    rfl
  have hdelimited : Delimited rest := fun b hb => by
    simp [hrest b (List.mem_of_mem_head? hb)]
  rw [parse?, value_spaces _ _ hspaces, h.reads maxDepth le_rfl rest hdelimited]
  exact if_pos hend

end RemoteSql.Json
