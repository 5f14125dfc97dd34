import Mathlib
import RemoteSql.Cursor.Row
import RemoteSql.Proofs.Json.Written
import RemoteSql.Proofs.Payload.Locality
import RemoteSql.Proofs.SortedMap

/-!
# The scanner agrees with the reader of JSON

Where a payload is JSON, the scanner stops at the same octets as the reader does. Item by item it
therefore decodes the same fields, and it notes offsets at which the same rows are read.
-/

namespace RemoteSql

open Json (Delimited Enclosed Listed SpacedMember SpacedValue Spaces Starting Written isDelimiter
  value)

namespace Payload

section Items

variable {α σ : Type} {P : α → Bytes → Prop} {close : UInt8} {payload : Bytes}
  {item : Rest → σ → Except Error (σ × Rest)} {I : List α → σ → Prop}
  (fault : PayloadFault)

theorem drop_add {payload bs bs' : Bytes} {o : Nat} (h : payload.drop o = bs ++ bs') :
    payload.drop (o + bs.length) = bs' := by
  rw [← List.drop_drop, h, List.drop_left]

theorem drop_succ {payload bs : Bytes} {b : UInt8} {o : Nat} (h : payload.drop o = b :: bs) :
    payload.drop (o + 1) = bs := by
  rw [← List.drop_drop, h]
  rfl

theorem isBlank_of_isDelimiter {b : UInt8} (h : isDelimiter b = true) :
    Ascii.isBlank b = false := by
  simp only [isDelimiter, Bool.or_eq_true, beq_iff_eq] at h
  rcases h with (rfl | rfl) | rfl <;> decide

/-- An item of the scanner that takes what writes one item of JSON, and keeps a relation between
the items read so far and what was gathered of them. -/
def Follows (P : α → Bytes → Prop) (payload : Bytes) (I : List α → σ → Prop)
    (item : Rest → σ → Except Error (σ × Rest)) : Prop :=
  ∀ done a body o rest found, P a body → Delimited rest → payload.drop o = body ++ rest →
    I done found →
    ∃ found', item ⟨o, body ++ rest⟩ found = .ok (found', ⟨o + body.length, rest⟩) ∧
      I (done ++ [a]) found'

theorem separated_of_listed (hclose : isDelimiter close = true) (hcomma : close ≠ Ascii.comma)
    (hitem : Follows P payload I item) {as : List α} {text : Bytes} (h : Listed P close as text)
    {fuel : Nat} (hfuel : as.length ≤ fuel) {o : Nat} {rest : Bytes} {done : List α} {found : σ}
    (hat : payload.drop o = text ++ rest) (hI : I done found) :
    ∃ found', separated item close fault fuel ⟨o, text ++ rest⟩ found =
        .ok (found', ⟨o + text.length, rest⟩) ∧ I (done ++ as) found' := by
  induction h generalizing fuel o done found with
  | @last a body spaces ha hs =>
    obtain ⟨k, rfl⟩ : ∃ k, fuel = k + 1 := ⟨fuel - 1, by simp at hfuel; omega⟩
    rw [List.append_assoc, List.append_assoc, List.singleton_append] at hat
    obtain ⟨found', hread, hI'⟩ := hitem done a body o (spaces ++ close :: rest) found ha
      (Json.delimited_append hs hclose rest) hat hI
    refine ⟨found', ?_, hI'⟩
    rw [List.append_assoc, List.append_assoc, List.singleton_append,
      separated_of_item hread hs.blanks (isBlank_of_isDelimiter hclose), if_neg hcomma, if_pos rfl]
    simp only [List.length_append, List.length_singleton, Nat.add_assoc]
  | @cons a body spaces as text ha hs _ ih =>
    obtain ⟨k, rfl⟩ : ∃ k, fuel = k + 1 := ⟨fuel - 1, by simp at hfuel; omega⟩
    have hk : as.length ≤ k := by simpa using hfuel
    rw [List.append_assoc, List.append_assoc, List.cons_append] at hat
    have hdelimited : Delimited (spaces ++ Ascii.comma :: (text ++ rest)) :=
      Json.delimited_append hs (by decide) _
    obtain ⟨found₁, hread, hI₁⟩ := hitem done a body o _ found ha hdelimited hat hI
    obtain ⟨found', hrest, hI'⟩ := ih hk (drop_succ (drop_add (drop_add hat))) hI₁
    refine ⟨found', ?_, by simpa using hI'⟩
    rw [List.append_assoc, List.append_assoc, List.cons_append,
      separated_of_item hread hs.blanks (by decide), if_pos rfl, hrest]
    simp only [List.length_append, List.length_cons, Except.ok.injEq, Prod.mk.injEq, Rest.mk.injEq,
      true_and, and_true]
    omega

theorem listed_of_enclosed (hclose : isDelimiter close = true) (hcomma : close ≠ Ascii.comma)
    (hP : Starting P close) (hitem : Follows P payload I item) {as : List α} {text : Bytes}
    (h : Enclosed P close as text) {o : Nat} {rest : Bytes} {done : List α} {found : σ}
    (hat : payload.drop o = text ++ rest) (hI : I done found) :
    ∃ found', listed item close fault ⟨o, text ++ rest⟩ found =
        .ok (found', ⟨o + text.length, rest⟩) ∧ I (done ++ as) found' := by
  cases h with
  | @empty spaces hs =>
    have hskip : Rest.skipBlank ⟨o, spaces ++ close :: rest⟩ =
        ⟨o + spaces.length, close :: rest⟩ :=
      skipBlank_append hs.blanks ((bare_cons close rest).mpr (isBlank_of_isDelimiter hclose)) o
    refine ⟨found, ?_, by simpa using hI⟩
    rw [List.append_assoc, List.singleton_append, listed, hskip]
    simp [Nat.add_assoc]
  | listed h =>
    obtain ⟨spaces, b, tail, rfl, hs, hb, hne, h⟩ := h.exists_start hP
    have hskip : Rest.skipBlank ⟨o, spaces ++ (b :: (tail ++ rest))⟩ =
        ⟨o + spaces.length, b :: (tail ++ rest)⟩ :=
      skipBlank_append hs.blanks ((bare_cons b _).mpr hb) o
    rw [List.append_assoc] at hat
    have hlen : as.length ≤ (b :: (tail ++ rest)).length + 1 := by
      have hle := h.length_le
      simp only [List.length_cons, List.length_append] at hle ⊢
      omega
    obtain ⟨found', hread, hI'⟩ :=
      separated_of_listed fault hclose hcomma hitem h hlen (drop_add hat) hI
    refine ⟨found', ?_, hI'⟩
    have hhead : ¬(b :: (tail ++ rest)).head? = some close := by simpa using hne
    rw [List.append_assoc, List.cons_append, listed, hskip]
    simp only [if_neg hhead]
    rw [List.cons_append] at hread
    rw [hread, List.length_append, Nat.add_assoc]

end Items

/-! ## Rows -/

/-- A value that is read where an offset points. -/
def RowAt (payload : Bytes) (offset : Nat) (v : Json) : Prop :=
  Json.lead (payload.drop offset) = .value v

/-- Offsets, the last one first, at which the given values are read. -/
def RowsAt (payload : Bytes) (vs : List Json) (offsets : List Nat) : Prop :=
  List.Forall₂ (RowAt payload) offsets.reverse vs

variable {depth : Nat} {payload : Bytes}

theorem lead_of_written {v : Json} {body rest : Bytes} (h : Written depth v body)
    (hdepth : depth ≤ Json.maxDepth) (hrest : Delimited rest) :
    Json.lead (body ++ rest) = .value v := by
  have hempty : (body ++ rest).isEmpty = false := by
    obtain ⟨b, tail, rfl⟩ := List.exists_cons_of_ne_nil h.ne_nil
    rfl
  have hends : rest.head?.all Json.endsWord = true := by
    cases hhead : rest.head? with
    | none => rfl
    | some b => exact Json.endsWord_of_delimited (hrest b hhead)
  unfold Json.lead
  simp only [h.skipSpace_eq, hempty, h.reads _ hdepth rest hrest, hends, Bool.or_true]
  rfl

theorem skipBlank_written {v : Json} {spaces body : Bytes} (hs : Spaces spaces)
    (h : Written depth v body) (o : Nat) (rest : Bytes) :
    Rest.skipBlank ⟨o, spaces ++ (body ++ rest)⟩ = ⟨o + spaces.length, body ++ rest⟩ :=
  skipBlank_append hs.blanks ((h.token [] Json.delimited_nil).bare rest) o

theorem copyValue_written {v : Json} {spaces body rest : Bytes} (hs : Spaces spaces)
    (h : Written depth v body) (hrest : Delimited rest) (o : Nat) (out : Store) :
    copyValue ⟨o, spaces ++ (body ++ rest)⟩ out =
      .ok (out.keepAll body, ⟨o + spaces.length + body.length, rest⟩) :=
  copyValue_append hs.blanks (h.token rest hrest) o out

theorem follows_row (hdepth : depth ≤ Json.maxDepth) :
    Follows (SpacedValue depth) payload (RowsAt payload) row := by
  rintro done v - o rest offsets ⟨spaces, body, rfl, hs, hw⟩ hrest hat hI
  rw [List.append_assoc] at hat
  have hrow : RowAt payload (o + spaces.length) v := by
    rw [RowAt, drop_add hat]
    exact lead_of_written hw hdepth hrest
  have hcopy := copyValue_written Json.spaces_nil hw hrest (o + spaces.length) none
  refine ⟨(o + spaces.length) :: offsets, ?_, ?_⟩
  · rw [List.append_assoc, row, skipBlank_written hs hw]
    dsimp only
    rw [List.nil_append] at hcopy
    rw [hcopy, List.length_append]
    simp [Except.map, Nat.add_assoc]
  · rw [RowsAt, List.reverse_cons]
    exact List.rel_append hI (.cons hrow .nil)

theorem form_of_written {v : Json} {body rest : Bytes} (h : Written depth v body)
    (hrest : Delimited rest) :
    ∃ b tail, body ++ rest = b :: tail ∧ Json.Form depth b tail v rest := by
  obtain ⟨b, tail, hskip, hform⟩ := Json.exists_form (h.reads depth le_rfl rest hrest)
  rw [h.skipSpace_eq] at hskip
  exact ⟨b, tail, hskip, hform⟩

/-- The array that holds the rows is stepped through row by row, and null holds none. -/
theorem rows_of_spacedValue (hdepth : depth ≤ Json.maxDepth) {v : Json}
    (hv : v = .null ∨ ∃ vs, v = .array vs) {text : Bytes} (h : SpacedValue depth v text) {o : Nat}
    {rest : Bytes} (hrest : Delimited rest) (hat : payload.drop o = text ++ rest)
    {prev : List Json} {offsets : List Nat} (hI : RowsAt payload prev offsets) :
    ∃ offsets', rows ⟨o, text ++ rest⟩ offsets = .ok (offsets', ⟨o + text.length, rest⟩) ∧
      RowsAt payload (prev ++ v.items?.getD []) offsets' := by
  obtain ⟨spaces, body, rfl, hs, hw⟩ := h
  obtain ⟨b, tail, hbody, hform⟩ := form_of_written hw hrest
  rw [List.append_assoc] at hat ⊢
  rw [rows, skipBlank_written hs hw, List.length_append, ← Nat.add_assoc]
  dsimp only
  rcases hv with rfl | ⟨vs, rfl⟩
  · have hcopy := copyValue_written Json.spaces_nil hw hrest (o + spaces.length) none
    cases hform with
    | object _ hv =>
      rcases Json.ofMembers?_cases hv with hv | ⟨literal, hv⟩ <;> cases hv
    | null h =>
      rw [List.nil_append, hbody] at hcopy
      refine ⟨offsets, ?_, by simpa [Json.items?] using hI⟩
      have hbracket : Ascii.lowerN ≠ Ascii.openBracket := by decide
      simp only [hbody, if_neg hbracket, if_true, hcopy]
      simp [Except.map]
  · cases hform with
    | object _ hv =>
      rcases Json.ofMembers?_cases hv with hv | ⟨literal, hv⟩ <;> cases hv
    | @array d _ _ _ h =>
      obtain ⟨text, rfl, henclosed⟩ := Json.exists_enclosed_of_items (by decide)
        (fun _ _ _ hread hrest => Json.exists_spacedValue hread hrest) h
      obtain rfl : body = Ascii.openBracket :: text := List.append_cancel_right hbody
      obtain ⟨offsets', hread, hI'⟩ := listed_of_enclosed .commaOrBracket (by decide) (by decide)
        (Json.SpacedValue.starting (by decide)) (follows_row (Nat.le_of_succ_le hdepth))
        henclosed (drop_succ (drop_add hat)) hI
      refine ⟨offsets', ?_, hI'⟩
      rw [List.cons_append]
      simp only [if_true, hread, List.length_cons]
      simp [Nat.add_assoc, Nat.add_comm 1]

/-! ## Fields -/

theorem decode_keepAll {α : Type} {read? : Bytes → Option α} {bs : Bytes} {a : α}
    (h : read? bs = some a) : decode read? (Store.keepAll (some []) bs) = .ok a := by
  rw [decode, Store.getD_keepAll, List.reverse_reverse, h]

theorem parse?_of_written {v : Json} {body : Bytes} (h : Written depth v body)
    (hdepth : depth ≤ Json.maxDepth) : Json.parse? body = some v := by
  have hread := h.reads _ hdepth [] Json.delimited_nil
  rw [List.append_nil] at hread
  rw [Json.parse?, hread]
  rfl

theorem parseText?_of_key {key : Bytes} {name : String}
    (h : ∀ rest, Json.text (key ++ rest) = some (name, rest)) :
    Json.parseText? (Ascii.quote :: key) = some name := by
  have hread := h []
  rw [List.append_nil] at hread
  unfold Json.parseText?
  split
  · next tail hskip =>
    have hcons : Ascii.quote :: key = Ascii.quote :: tail := hskip
    obtain ⟨-, rfl⟩ := List.cons.inj hcons
    rw [hread]
    rfl
  · next hnot => exact absurd rfl (hnot key)

theorem fieldName_of_key {spaces key gap : Bytes} {name : String} (hspaces : Spaces spaces)
    (hkey : Quoted false key) (hname : ∀ rest, Json.text (key ++ rest) = some (name, rest))
    (hgap : Spaces gap) (o : Nat) (tail : Bytes) :
    fieldName ⟨o, spaces ++ Ascii.quote :: (key ++ (gap ++ Ascii.colon :: tail))⟩ =
      .ok (name, ⟨o + (spaces.length + (key.length + 1 + (gap.length + 1))), tail⟩) := by
  have hskip : Rest.skipBlank ⟨o, spaces ++ Ascii.quote :: (key ++ (gap ++ Ascii.colon :: tail))⟩ =
      ⟨o + spaces.length, Ascii.quote :: (key ++ (gap ++ Ascii.colon :: tail))⟩ :=
    skipBlank_append hspaces.blanks ((bare_cons _ _).mpr (by decide)) o
  have hcopy : copyString ⟨o + spaces.length, Ascii.quote :: (key ++ (gap ++ Ascii.colon :: tail))⟩
      (some []) = .ok (Store.keepAll (some []) (Ascii.quote :: key),
        ⟨o + spaces.length + 1 + key.length, gap ++ Ascii.colon :: tail⟩) := by
    rw [Store.keepAll_cons]
    exact copyText_append hkey (o + spaces.length + 1) _ _
  have hcolon := expect_append hgap.blanks (b := Ascii.colon) (by decide)
    (o + spaces.length + 1 + key.length) tail .colon
  rw [fieldName, hskip]
  simp only [List.head?_cons, if_true, hcopy, bind, Except.bind,
    decode_keepAll (parseText?_of_key hname), hcolon]
  have hlen : o + spaces.length + 1 + key.length + gap.length + 1 =
      o + (spaces.length + (key.length + 1 + (gap.length + 1))) := by omega
  rw [hlen]
  rfl

/-- A member of which the scanner can make a field: what holds the rows is an array or null. -/
def FieldText (depth : Nat) (m : String × Json) (text : Bytes) : Prop :=
  SpacedMember depth m text ∧ (m.1 = rowsField → m.2 = .null ∨ ∃ vs, m.2 = .array vs)

def rowsOf (ms : List (String × Json)) : List Json :=
  ms.flatMap fun m => if m.1 = rowsField then m.2.items?.getD [] else []

/-- What the scanner has gathered of the given members. -/
def LayoutOf (payload : Bytes) (ms : List (String × Json)) (layout : Layout) : Prop :=
  layout.fields = SortedMap.ofList (SortedMap.erase ms rowsField) ∧
    RowsAt payload (rowsOf ms) layout.rowOffsets

theorem starting_fieldText : Starting (FieldText depth) Ascii.closeBrace := by
  rintro m text ⟨htext, hrows⟩
  obtain ⟨spaces, b, tail, rfl, hs, hb, hne, htail⟩ := Json.SpacedMember.starting m text htext
  exact ⟨spaces, b, tail, rfl, hs, hb, hne, htail, hrows⟩

theorem follows_field (hdepth : depth ≤ Json.maxDepth) :
    Follows (FieldText depth) payload (LayoutOf payload) field := by
  rintro done m - o rest layout
    ⟨@⟨spaces, key, gap, tail, hspaces, hkey, hname, hgap, hvalue⟩, hrows⟩ hrest hat ⟨hfields, hI⟩
  have hfield := fieldName_of_key hspaces hkey hname hgap o (tail ++ rest)
  simp only [List.append_assoc, List.cons_append] at hat ⊢
  have hat' : payload.drop (o + (spaces.length + (key.length + 1 + (gap.length + 1)))) =
      tail ++ rest := by
    have htail := drop_succ (drop_add (drop_add (drop_succ (drop_add hat))))
    have hlen : o + (spaces.length + (key.length + 1 + (gap.length + 1))) =
        o + spaces.length + 1 + key.length + gap.length + 1 := by omega
    rw [hlen]
    exact htail
  rw [field, hfield]
  simp only [bind, Except.bind, List.length_append, List.length_cons]
  by_cases hrowsName : m.1 = rowsField
  · obtain ⟨offsets, hread, hI'⟩ :=
      rows_of_spacedValue hdepth (hrows hrowsName) hvalue hrest hat' hI
    refine ⟨{ layout with rowOffsets := offsets }, ?_, ?_, ?_⟩
    · rw [fieldValue, if_pos hrowsName, hread]
      simp only [Except.map, Except.ok.injEq, Prod.mk.injEq, Rest.mk.injEq, true_and, and_true]
      omega
    · have herase : SortedMap.erase (done ++ [m]) rowsField = SortedMap.erase done rowsField := by
        simp [SortedMap.erase, hrowsName]
      rw [herase]
      exact hfields
    · simpa [rowsOf, hrowsName] using hI'
  · obtain ⟨gap', body, rfl, hgap', hw⟩ := hvalue
    have hcopy := copyValue_written hgap' hw hrest
      (o + (spaces.length + (key.length + 1 + (gap.length + 1)))) (some [])
    refine ⟨{ layout with fields := layout.fields.insert m.1 m.2 }, ?_, ?_, ?_⟩
    · rw [fieldValue, if_neg hrowsName, List.append_assoc, hcopy]
      simp only [bind, Except.bind, decode_keepAll (parse?_of_written hw hdepth), pure, Except.pure,
        Except.ok.injEq, Prod.mk.injEq, Rest.mk.injEq, true_and, and_true, List.length_append]
      omega
    · have herase : SortedMap.erase (done ++ [m]) rowsField =
          SortedMap.erase done rowsField ++ [m] := by
        simp [SortedMap.erase, hrowsName]
      rw [herase, SortedMap.ofList_concat, ← hfields]
    · simpa [rowsOf, hrowsName] using hI

theorem rowsOf_eq {ms : List (String × Json)} (h : (SortedMap.keys ms).count rowsField ≤ 1) :
    rowsOf ms = ((SortedMap.get? ms rowsField).bind Json.items?).getD [] := by
  induction ms with
  | nil => rfl
  | cons m ms ih =>
    rw [SortedMap.count_keys_cons] at h
    rw [rowsOf, List.flatMap_cons, ← rowsOf, ih (Nat.le_of_add_right_le h), SortedMap.get?_cons]
    by_cases hm : m.1 = rowsField
    · rw [if_pos hm] at h
      rw [if_pos hm, if_pos hm.symm, SortedMap.get?_eq_none_of_count (by omega)]
      exact List.append_nil _
    · rw [if_neg hm, if_neg (Ne.symm hm)]
      rfl

/-- Where a payload writes an object in which the field of the rows is written at most once and
holds an array or null, the scan succeeds, and it gathers the members of the object. -/
theorem scan_of_enclosed {payload spaces text rest : Bytes} {ms : List (String × Json)}
    (hpayload : payload = spaces ++ Ascii.openBrace :: (text ++ rest)) (hs : Spaces spaces)
    (henclosed : Enclosed (SpacedMember (Json.maxDepth - 1)) Ascii.closeBrace ms text)
    (hcount : (SortedMap.keys ms).count rowsField ≤ 1)
    (hrows : ∀ v, SortedMap.get? ms rowsField = some v → v = .null ∨ ∃ vs, v = .array vs) :
    ∃ layout, scan payload = .ok layout ∧
      layout.fields = SortedMap.ofList (SortedMap.erase ms rowsField) ∧
      List.Forall₂ (RowAt payload) layout.rowOffsets
        (((SortedMap.get? ms rowsField).bind Json.items?).getD []) := by
  have hfields : Enclosed (FieldText (Json.maxDepth - 1)) Ascii.closeBrace ms text :=
    henclosed.imp fun m hm text htext => ⟨htext, fun hname => hrows m.2 (by
      rw [← hname] at hcount ⊢
      exact SortedMap.get?_of_mem hcount hm)⟩
  have hopen : Rest.expect ⟨0, payload⟩ Ascii.openBrace .openBrace =
      .ok ⟨0 + spaces.length + 1, text ++ rest⟩ := by
    rw [hpayload]
    exact expect_append hs.blanks (by decide) 0 _ _
  have hstart : payload.drop 0 = spaces ++ Ascii.openBrace :: (text ++ rest) := hpayload
  have hnone : LayoutOf payload [] {} := ⟨rfl, .nil⟩
  obtain ⟨layout, hlisted, hlayout, hat⟩ := listed_of_enclosed .commaOrBrace (by decide)
    (by decide) starting_fieldText (follows_field (Nat.sub_le _ _)) hfields
    (drop_succ (drop_add hstart)) hnone
  refine ⟨{ layout with rowOffsets := layout.rowOffsets.reverse }, ?_, hlayout, ?_⟩
  · rw [scan, scanObject, hopen]
    simp only [bind, Except.bind, hlisted]
    rfl
  · rw [← rowsOf_eq hcount]
    exact hat

theorem RowAt.read_eq {payload : Bytes} {offset : Nat} {v : Json} (h : RowAt payload offset v)
    (row : Nat) : Row.read row (payload.drop offset) = Row.cells row v := by
  rw [RowAt] at h
  rw [Row.read, h]

/-- Where a payload is the JSON text of an object, the scan parts its rows from its other
members. -/
theorem scan_of_object {payload : Bytes} {members : Json.Members}
    (hparse : Json.parse? payload = some (.object members))
    (hcount : (SortedMap.keys (Json.writtenMembers payload)).count rowsField ≤ 1)
    (hrows : ∀ v, members.get? rowsField = some v → v = .null ∨ ∃ vs, v = .array vs) :
    ∃ layout, scan payload = .ok layout ∧ layout.fields = members.erase rowsField ∧
      List.Forall₂ (RowAt payload) layout.rowOffsets
        (((members.get? rowsField).bind Json.items?).getD []) := by
  obtain ⟨spaces, text, rest, hpayload, hs, henclosed, rfl⟩ := Json.exists_members_of_parse? hparse
  have hget : (SortedMap.ofList (Json.writtenMembers payload)).get? rowsField =
      SortedMap.get? (Json.writtenMembers payload) rowsField := by
    rw [SortedMap.get?_ofList]
    exact SortedMap.get?_reverse hcount
  rw [hget] at hrows ⊢
  rw [SortedMap.erase_ofList]
  exact scan_of_enclosed hpayload hs henclosed hcount hrows

/-- Where a payload is the JSON text of an object in which the field of the rows is written at most
once and holds an array or null, the scan succeeds, its fields are the other members of the object,
and its offsets are those at which the elements of the array are read, one after the other. -/
theorem scan_of_parse {payload : Bytes} {members : Json.Members}
    (hparse : Json.parse? payload = some (.object members))
    (hcount : ((Json.writtenMembers payload).map Prod.fst).count rowsField ≤ 1)
    (hrows : ∀ v, members.get? rowsField = some v → v = .null ∨ ∃ vs, v = .array vs) :
    members = SortedMap.ofList (Json.writtenMembers payload) ∧
    ∃ layout, scan payload = .ok layout ∧ layout.fields = members.erase rowsField ∧
      List.Forall₂
        (fun offset v => Json.lead (payload.drop offset) = .value v ∧
          ∀ row, Row.read row (payload.drop offset) = Row.cells row v)
        layout.rowOffsets (((members.get? rowsField).bind Json.items?).getD []) := by
  obtain ⟨-, -, -, -, -, -, hmembers⟩ := Json.exists_members_of_parse? hparse
  obtain ⟨layout, hscan, hfields, hat⟩ := scan_of_object hparse hcount hrows
  exact ⟨hmembers, layout, hscan, hfields, hat.imp fun _ _ hv => ⟨hv, hv.read_eq⟩⟩

theorem scan_of_parse_two_rows :
    ∃ (members : Json.Members) (layout : Layout),
      Json.parse? (Utf8.encode
        " \x7b\"a\":\"]\\\"\", \"\\u0071uery_rows\" :[[ ],\"\x7d\"], \"a\":1\x7d ") =
          some (.object members) ∧
      scan (Utf8.encode
        " \x7b\"a\":\"]\\\"\", \"\\u0071uery_rows\" :[[ ],\"\x7d\"], \"a\":1\x7d ") =
          .ok layout ∧
      layout.fields = members.erase rowsField ∧ layout.rowOffsets.length = 2 := by
  have hlength : ((Json.parse? (Utf8.encode
      " \x7b\"a\":\"]\\\"\", \"\\u0071uery_rows\" :[[ ],\"\x7d\"], \"a\":1\x7d ")).bind
      Json.members?).map (fun members =>
        ((members.get? rowsField).bind Json.items?).map List.length) = some (some 2) := by
    decide +kernel
  obtain ⟨members, hmembers, hlength⟩ := Option.map_eq_some_iff.mp hlength
  obtain ⟨v, hparse, hv⟩ := Option.bind_eq_some_iff.mp hmembers
  obtain rfl := Json.members?_eq_some_iff.mp hv
  obtain ⟨vs, hitems, htwo⟩ := Option.map_eq_some_iff.mp hlength
  obtain ⟨v, hget, harray⟩ := Option.bind_eq_some_iff.mp hitems
  obtain rfl := Json.items?_eq_some_iff.mp harray
  have hrows : ∀ v, members.get? rowsField = some v → v = .null ∨ ∃ vs, v = .array vs := by
    intro v hv
    rw [hget] at hv
    cases hv
    exact Or.inr ⟨vs, rfl⟩
  obtain ⟨-, layout, hscan, hfields, hat⟩ := scan_of_parse hparse (by decide +kernel) hrows
  refine ⟨members, layout, hparse, hscan, hfields, ?_⟩
  rw [hat.length_eq, hitems]
  exact htwo

end Payload

end RemoteSql
