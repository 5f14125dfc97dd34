import Mathlib
import RemoteSql.Proofs.Decimal.Whole
import RemoteSql.Proofs.Envelope.Verdict
import RemoteSql.Proofs.Json.Written
import RemoteSql.Proofs.SortedMap
import RemoteSql.Proofs.Text.Utf8
import RemoteSql.Proofs.Trace

/-!
# Output parameters of a reply

Output parameters come in an object whose names are texts that may spell an index, and several of
them the same one. Of those the last in the order of octets decides on the value.
-/

namespace RemoteSql

namespace Json

/-- Whatever order they are written in, the members of an object are in the order of their names. -/
theorem Written.ascending {depth : Nat} {members : Members} {body : Bytes}
    (h : Written depth (.object members) body) : SortedMap.Ascending members := by
  obtain ⟨b, tail, -, hform⟩ := exists_form (h.reads depth le_rfl [] delimited_nil)
  cases hform with
  | object _ hv =>
    rcases ofMembers?_cases hv with hv | ⟨literal, hv⟩
    · rw [object.inj hv]
      exact SortedMap.ascending_ofList _
    · cases hv

theorem ascending_of_get? {bs : Bytes} {document members : Members} {key : String}
    (h : parse? bs = some (.object document))
    (hget : document.get? key = some (.object members)) : SortedMap.Ascending members := by
  obtain ⟨_, _, _, -, -, henclosed, hmembers⟩ := exists_members_of_parse? h
  rw [hmembers, SortedMap.get?_ofList] at hget
  have hmem := List.mem_reverse.mp (SortedMap.mem_of_get? hget)
  obtain ⟨item, hitem⟩ := henclosed.exists_item hmem
  cases hitem with
  | mk _ _ _ _ hvalue =>
    obtain ⟨-, body, -, -, hwritten⟩ := hvalue
    exact hwritten.ascending

end Json

namespace Envelope

theorem document?_of_document {r : Reply} {members : Json.Members}
    (h : (ofReply r).document = some members) : document? r.body = some members := by
  cases hbody : document? r.body with
  | none => simp [ofReply, decode, hbody, httpFailure, document] at h
  | some members' =>
    rw [ofReply, decode, hbody] at h
    change (ofDocument members' r.status).document = some members at h
    unfold ofDocument at h
    split at h <;> simp_all [httpFailure, document]

theorem ascending_objectField (r : Reply) (key : String) :
    SortedMap.Ascending ((ofReply r).objectField key) := by
  unfold objectField
  cases hdocument : (ofReply r).document with
  | none => exact List.Pairwise.nil
  | some document =>
    obtain ⟨v, hparse, hv⟩ := Option.bind_eq_some_iff.mp (document?_of_document hdocument)
    rw [Json.members?_eq_some_iff.mp hv] at hparse
    rw [Option.bind_some]
    cases hget : document.get? key with
    | none => exact List.Pairwise.nil
    | some v =>
      rw [Option.bind_some]
      cases hmembers : v.members? with
      | none => exact List.Pairwise.nil
      | some members =>
        rw [Json.members?_eq_some_iff.mp hmembers] at hget
        exact Json.ascending_of_get? hparse hget

/-- Blanks apart, the name is a numeral of the index, which has no minus. -/
def Spells (name : String) (index : UInt32) : Prop :=
  ∃ text, Text.Trimmed name text ∧ Decimal.Denotes text.toList index.toNat ∧
    text.toList.head? ≠ some '-'

theorem spells_iff {name : String} {index : UInt32} :
    Spells name index ↔ Decimal.readUnsigned? 32 (Text.trim name) = some index.toNat := by
  rw [Decimal.readUnsigned?_eq_some_iff]
  constructor
  · rintro ⟨text, htext, h⟩
    obtain rfl := Text.trim_eq_iff.mpr htext
    exact ⟨h, index.toNat_lt⟩
  · rintro ⟨h, -⟩
    exact ⟨Text.trim name, Text.trim_eq_iff.mp rfl, h⟩

theorem Spells.inj {name : String} {index index' : UInt32} (h : Spells name index)
    (h' : Spells name index') : index = index' := by
  rw [spells_iff] at h h'
  exact UInt32.toNat_inj.mp (Option.some.inj (h.symm.trans h'))

/-- What an output parameter gives to a slot: nothing if it is null or says so, and else what it is
in raw form. -/
inductive OutText : Json → Option String → Prop
  | null : OutText .null none
  | marker {v : Json} (h : Json.RawText v "NULL") : OutText v none
  | raw {v : Json} {s : String} (h : Json.RawText v s) (hs : s ≠ "NULL") : OutText v (some s)

theorem outValue_eq_iff {v : Json} {value : Option String} :
    outValue v = value ↔ OutText v value := by
  have hfilter : ∀ s : String, (some s).filter (· != nullMarker) =
      if s = "NULL" then none else some s := by
    intro s
    by_cases hs : s = "NULL" <;> simp [nullMarker, Option.filter, hs]
  constructor
  · rintro rfl
    unfold outValue
    cases htext : v.fieldText? with
    | none =>
      rw [Json.fieldText?_eq_none_iff.mp htext]
      exact .null
    | some s =>
      have hraw := Json.fieldText?_eq_some_iff.mp htext
      rw [hfilter]
      split
      · next hs => exact .marker (hs ▸ hraw)
      · next hs => exact .raw hraw hs
  · intro h
    cases h with
    | null => rfl
    | marker h => rw [outValue, Json.fieldText?_eq_some_iff.mpr h, hfilter, if_pos rfl]
    | raw h hs => rw [outValue, Json.fieldText?_eq_some_iff.mpr h, hfilter, if_neg hs]

def outEntry? (m : String × Json) : Option (UInt32 × Option String) :=
  (Decimal.readUnsigned? 32 (Text.trim m.1)).map fun n => (UInt32.ofNat n, outValue m.2)

theorem outEntry?_eq_some_iff {m : String × Json} {index : UInt32} {value : Option String} :
    outEntry? m = some (index, value) ↔ Spells m.1 index ∧ OutText m.2 value := by
  rw [spells_iff, ← outValue_eq_iff]
  unfold outEntry?
  cases hread : Decimal.readUnsigned? 32 (Text.trim m.1) with
  | none => simp
  | some n =>
    have hn : n < Nat.pow 2 32 := (Decimal.readUnsigned?_eq_some_iff.mp hread).2
    have hindex : UInt32.ofNat n = index ↔ n = index.toNat := by
      rw [← UInt32.toNat_inj, UInt32.toNat_ofNat_of_lt' hn]
    simp [hindex]

def outs (ms : List (String × Json)) : SortedMap UInt32 (Option String) :=
  SortedMap.ofList (ms.filterMap outEntry?)

theorem get?_outs_concat (ms : List (String × Json)) (m : String × Json) {index : UInt32}
    {value : Option String} :
    (outs (ms ++ [m])).get? index = some value ↔
      Spells m.1 index ∧ OutText m.2 value ∨
        (outs ms).get? index = some value ∧ ¬Spells m.1 index := by
  rw [outs, List.filterMap_append]
  cases hentry : outEntry? m with
  | none =>
    have hspells : ¬Spells m.1 index := by
      intro h
      have hsome := outEntry?_eq_some_iff.mpr ⟨h, outValue_eq_iff.mp rfl⟩
      rw [hentry] at hsome
      cases hsome
    simp [hentry, hspells, outs]
  | some b =>
    obtain ⟨hspells, hvalue⟩ := outEntry?_eq_some_iff.mp hentry
    have hlast : List.filterMap outEntry? [m] = [b] := by simp [hentry]
    rw [hlast, SortedMap.ofList_concat]
    by_cases hindex : index = b.1
    · subst hindex
      rw [SortedMap.get?_insert_self, Option.some.injEq, ← outValue_eq_iff.mpr hvalue,
        outValue_eq_iff]
      simp [hspells]
    · have hne : ¬Spells m.1 index := fun h => hindex (h.inj hspells)
      rw [SortedMap.get?_insert_of_ne hindex]
      simp [hne, outs]

/-- The last output parameter of an index counts. -/
theorem get?_outs {ms : List (String × Json)} {index : UInt32} {value : Option String} :
    (outs ms).get? index = some value ↔
      Since (fun m => Spells m.1 index ∧ OutText m.2 value) (fun m => Spells m.1 index) ms := by
  refine iff_since (R := fun ms => (outs ms).get? index = some value) ?_ (fun ms m => ?_) ms
  · intro h
    cases h
  · exact get?_outs_concat ms m

theorem get?_outs_eq_none_iff {ms : List (String × Json)} {index : UInt32} :
    (outs ms).get? index = none ↔ ∀ m ∈ ms, ¬Spells m.1 index := by
  induction ms using List.reverseRecOn with
  | nil => exact ⟨fun _ _ hm => (List.not_mem_nil hm).elim, fun _ => rfl⟩
  | append_singleton ms m ih =>
    have hconcat : (outs (ms ++ [m])).get? index = none ↔
        (outs ms).get? index = none ∧ ¬Spells m.1 index := by
      simp only [Option.eq_none_iff_forall_ne_some, ne_eq, get?_outs_concat]
      have hout : ∃ value, OutText m.2 value := ⟨_, outValue_eq_iff.mp rfl⟩
      by_cases hspells : Spells m.1 index <;> simp [hspells, hout]
    rw [hconcat, ih]
    simp only [List.forall_mem_append, List.forall_mem_singleton]

def Unspelled (members : Json.Members) (index : UInt32) : Prop :=
  ∀ m ∈ members, ¬Spells m.1 index

/-- The member that is the last, in the order of octets, of those whose names spell an index. -/
structure Decides (members : Json.Members) (index : UInt32) (m : String × Json) : Prop where
  mem : m ∈ members
  spells : Spells m.1 index
  last : ∀ m' ∈ members, Spells m'.1 index → m' = m ∨ Utf8.encode m'.1 < Utf8.encode m.1

theorem exists_decides {members : Json.Members} (h : SortedMap.Ascending members) {index : UInt32}
    {value : Option String} (hget : (outs members).get? index = some value) :
    ∃ m, Decides members index m ∧ OutText m.2 value := by
  obtain ⟨pre, m, post, rfl, ⟨hspells, hvalue⟩, hpost⟩ := get?_outs.mp hget
  -- the members before it have smaller names, those after it spell other indexes
  refine ⟨m, ⟨by simp, hspells, ?_⟩, hvalue⟩
  intro m' hm' hspells'
  rcases List.mem_append.mp hm' with hm' | hm'
  · have hlt := (List.pairwise_append.mp h).2.2 m' hm' m List.mem_cons_self
    exact Or.inr (Utf8.encode_lt hlt)
  · rcases List.mem_cons.mp hm' with rfl | hm'
    · exact Or.inl rfl
    · exact absurd hspells' (hpost m' hm')

/-- The output parameters that a document with these members gives: those of the object that is
written last under their name, if there is one. -/
inductive OutMembers (ms : List (String × Json)) : Json.Members → Prop
  | object {members : Json.Members}
    (h : Json.LastWritten ms "parameters_out_per_index" (.object members)) : OutMembers ms members
  | none (h : ∀ members, ¬Json.LastWritten ms "parameters_out_per_index" (.object members)) :
    OutMembers ms []

def outMembers (e : Envelope) : Json.Members := e.objectField "parameters_out_per_index"

theorem outMembers_ofReply {r : Reply} {ms : List (String × Json)} (h : Declares r.body .ok ms) :
    OutMembers ms (outMembers (ofReply r)) := by
  have hfield : outMembers (ofReply r) =
      (((SortedMap.ofList ms).get? "parameters_out_per_index").bind Json.members?).getD [] := by
    rw [ofReply_of_ok h]
    rfl
  rw [hfield]
  cases hobject : ((SortedMap.ofList ms).get? "parameters_out_per_index").bind Json.members? with
  | none =>
    apply OutMembers.none
    intro members hlast
    rw [SortedMap.get?_ofList_eq_some_iff.mpr hlast] at hobject
    cases hobject
  | some members =>
    obtain ⟨v, hv, hmembers⟩ := Option.bind_eq_some_iff.mp hobject
    obtain rfl := Json.members?_eq_some_iff.mp hmembers
    exact .object (SortedMap.get?_ofList_eq_some_iff.mp hv)

theorem outByIndex_eq (e : Envelope) : e.outByIndex = outs (outMembers e) := rfl

end Envelope

end RemoteSql
