import Mathlib
import RemoteSql.Proofs.Decimal.Whole
import RemoteSql.Proofs.Statement.Parameter
import RemoteSql.Proofs.Url.Form
import RemoteSql.Statement.Form

/-!
# Statements that were sent

A form has no name twice, so a statement can be read back from it name by name, however it was
encoded on the way. What is read is the statement with the last binding of each index; only that a
parameter had no value rather than the text of the null marker cannot be told.
-/

namespace RemoteSql

/-- What a field says of a parameter. -/
inductive Facet
  | type
  | value
  | direction
  deriving DecidableEq, Repr

namespace Facet

def front : Facet → String
  | type => "param_type_"
  | value => "param_value_"
  | direction => "param_direction_"

def name (f : Facet) (index : UInt32) : String := f.front ++ toString index

def index? (f : Facet) (name : String) : Option UInt32 :=
  (name.toList.dropPrefix? f.front.toList).bind fun digits =>
    (Decimal.readUnsigned? 32 (String.ofList digits)).map UInt32.ofNat

theorem index?_name_self (f : Facet) (index : UInt32) : f.index? (f.name index) = some index := by
  have hdrop : (f.name index).toList.dropPrefix? f.front.toList =
      some (toString index.toNat).toList := by
    rw [name, String.toList_append, List.dropPrefix?_append_of_beq _ (by simp)]
    rfl
  have hread : Decimal.readUnsigned? 32 (toString index.toNat) = some index.toNat :=
    Decimal.readUnsigned?_toString index.toNat_lt
  rw [index?, hdrop, Option.bind_some, String.ofList_toList, hread, Option.map_some,
    UInt32.ofNat_toNat]

theorem index?_name_of_ne {f g : Facet} (h : f ≠ g) (index : UInt32) :
    f.index? (g.name index) = none := by
  have hdrop : (g.name index).toList.dropPrefix? f.front.toList = none := by
    rw [name, String.toList_append]
    cases f <;> cases g <;> first | exact absurd rfl h | rfl
  rw [index?, hdrop, Option.bind_none]

/-- A name without an index is the name of no parameter's field. -/
theorem ne_name {name : String} (h : ∀ f : Facet, f.index? name = none) (f : Facet)
    (index : UInt32) : name ≠ f.name index := by
  rintro rfl
  have hnone := h f
  rw [index?_name_self] at hnone
  cases hnone

theorem name_inj {f g : Facet} {index index' : UInt32} (h : f.name index = g.name index') :
    f = g ∧ index = index' := by
  have hindex : f.index? (g.name index') = some index := h ▸ index?_name_self f index
  by_cases hfg : f = g
  · subst hfg
    rw [index?_name_self] at hindex
    exact ⟨rfl, (Option.some.inj hindex).symm⟩
  · rw [index?_name_of_ne hfg] at hindex
    cases hindex

end Facet

/-- A parameter as a form shows it. -/
structure SentParameter where
  index : UInt32
  type : String
  value : String
  direction : Option Direction
  deriving DecidableEq, Repr

/-- A statement as a form shows it. -/
@[ext]
structure SentStatement where
  sql : String
  isPrepared : Bool
  isProcedure : Bool
  gzip : Option Bool
  parameters : List SentParameter
  deriving DecidableEq, Repr

namespace Form

def readTruth? (s : String) : Option Bool := [true, false].find? fun b => toString b == s

def optional? {α : Type} (form : Form) (name : String) (read : String → Option α) :
    Option (Option α) :=
  match SortedMap.get? form name with
  | none => some none
  | some text => (read text).map some

def parameter? (form : Form) (index : UInt32) : Option SentParameter := do
  let type ← SortedMap.get? form (Facet.type.name index)
  let value ← SortedMap.get? form (Facet.value.name index)
  let direction ← optional? form (Facet.direction.name index) Direction.ofName?
  return { index, type, value, direction }

/-- The indexes that have a type, in the order in which they come. -/
def indexes (form : Form) : List UInt32 := form.filterMap fun field => Facet.type.index? field.1

def statement? (form : Form) : Option SentStatement := do
  let sql ← SortedMap.get? form "sql"
  let isPrepared ← (SortedMap.get? form "prepared_statement").bind readTruth?
  let isProcedure ← (SortedMap.get? form "stored_procedure").bind readTruth?
  let gzip ← optional? form "gzip_result" readTruth?
  let parameters ← (indexes form).mapM (parameter? form)
  return { sql, isPrepared, isProcedure, gzip, parameters }

theorem optional?_of_get? {α : Type} {form : Form} {name : String} {read : String → Option α}
    {write : α → String} (hread : ∀ a, read (write a) = some a) {a? : Option α}
    (h : SortedMap.get? form name = a?.map write) : optional? form name read = some a? := by
  rw [optional?, h]
  cases a? with
  | none => rfl
  | some a => simp [hread]

theorem mapM_map_eq_some {α β : Type} {read : β → Option α} {write : α → β} {as : List α}
    (h : ∀ a ∈ as, read (write a) = some a) : (as.map write).mapM read = some as := by
  induction as with
  | nil => rfl
  | cons a as ih =>
    obtain ⟨ha, has⟩ := List.forall_mem_cons.mp h
    rw [List.map_cons, List.mapM_cons, ha, ih has]
    rfl

theorem readTruth?_toString (b : Bool) : readTruth? (toString b) = some b := by
  cases b <;> rfl

end Form

namespace Direction

theorem ofName?_name (d : Direction) : ofName? d.name = some d := by
  cases d <;> rfl

end Direction

namespace SentParameter

def facets (p : SentParameter) : SortedMap Facet String :=
  [(.type, p.type), (.value, p.value)] ++ (p.direction.map fun d => (.direction, d.name)).toList

def fields (p : SentParameter) : Form := p.facets.map fun f => (f.1.name p.index, f.2)

theorem nodup_keys_facets (p : SentParameter) : (SortedMap.keys p.facets).Nodup := by
  cases hd : p.direction <;> simp [facets, hd, SortedMap.keys]

theorem keys_fields (p : SentParameter) :
    SortedMap.keys p.fields = (SortedMap.keys p.facets).map fun f => f.name p.index := by
  simp [SortedMap.keys, fields]

theorem nodup_keys_fields (p : SentParameter) : (SortedMap.keys p.fields).Nodup := by
  rw [keys_fields]
  exact p.nodup_keys_facets.map fun _ _ h => (Facet.name_inj h).1

theorem exists_name_of_mem_keys {p : SentParameter} {name : String}
    (h : name ∈ SortedMap.keys p.fields) : ∃ f : Facet, name = f.name p.index := by
  rw [keys_fields, List.mem_map] at h
  obtain ⟨f, -, rfl⟩ := h
  exact ⟨f, rfl⟩

theorem get?_fields_of_ne {p : SentParameter} {index : UInt32} (h : p.index ≠ index) (f : Facet) :
    SortedMap.get? p.fields (f.name index) = none := by
  apply SortedMap.get?_eq_none
  intro field hfield he
  obtain ⟨g, hg⟩ := exists_name_of_mem_keys (List.mem_map_of_mem hfield)
  exact h (Facet.name_inj (hg.symm.trans he)).2

theorem get?_fields (p : SentParameter) (f : Facet) :
    SortedMap.get? p.fields (f.name p.index) = SortedMap.get? p.facets f := by
  unfold fields
  induction p.facets with
  | nil => rfl
  | cons g gs ih =>
    rw [List.map_cons, SortedMap.get?_cons, SortedMap.get?_cons, ih]
    have hname : f.name p.index = g.1.name p.index ↔ f = g.1 :=
      ⟨fun h => (Facet.name_inj h).1, fun h => h ▸ rfl⟩
    simp only [hname]

theorem indexes_fields (p : SentParameter) : Form.indexes p.fields = [p.index] := by
  have htype := Facet.index?_name_self .type p.index
  have hvalue : Facet.type.index? (Facet.value.name p.index) = none :=
    Facet.index?_name_of_ne (by decide) p.index
  have hdirection : Facet.type.index? (Facet.direction.name p.index) = none :=
    Facet.index?_name_of_ne (by decide) p.index
  cases hd : p.direction <;>
    simp [Form.indexes, fields, facets, hd, htype, hvalue, hdirection]

variable {ps : List SentParameter}

theorem exists_name_of_mem_flatMap {field : String × String} (h : field ∈ ps.flatMap fields) :
    ∃ p ∈ ps, ∃ f : Facet, field.1 = f.name p.index := by
  obtain ⟨p, hp, hfield⟩ := List.mem_flatMap.mp h
  exact ⟨p, hp, exists_name_of_mem_keys (List.mem_map_of_mem hfield)⟩

theorem get?_flatMap_of_ne {index : UInt32} (h : ∀ p ∈ ps, p.index ≠ index) (f : Facet) :
    SortedMap.get? (ps.flatMap fields) (f.name index) = none := by
  induction ps with
  | nil => rfl
  | cons p ps ih =>
    obtain ⟨hp, hps⟩ := List.forall_mem_cons.mp h
    rw [List.flatMap_cons, SortedMap.get?_append, get?_fields_of_ne hp, Option.none_or, ih hps]

def Ascending (ps : List SentParameter) : Prop := ps.Pairwise fun p q => p.index < q.index

theorem Ascending.nodup_keys (h : Ascending ps) :
    (SortedMap.keys (ps.flatMap fields)).Nodup := by
  have hkeys : SortedMap.keys (ps.flatMap fields) = ps.flatMap fun p => SortedMap.keys p.fields :=
    List.map_flatMap
  rw [hkeys]
  apply List.nodup_flatMap.mpr
  constructor
  · exact fun p _ => p.nodup_keys_fields
  · refine h.imp fun {p q} hlt name hp hq => ?_
    obtain ⟨f, rfl⟩ := exists_name_of_mem_keys hp
    obtain ⟨g, hg⟩ := exists_name_of_mem_keys hq
    rw [(Facet.name_inj hg).2] at hlt
    exact UInt32.lt_irrefl _ hlt

theorem Ascending.ext {qs : List SentParameter} (hps : Ascending ps) (hqs : Ascending qs)
    (hmem : ∀ p, p ∈ ps ↔ p ∈ qs) : ps = qs := by
  have hirrefl : Std.Irrefl fun p q : SentParameter => p.index < q.index :=
    ⟨fun p => UInt32.lt_irrefl p.index⟩
  have hantisymm : Std.Antisymm fun p q : SentParameter => p.index < q.index :=
    ⟨fun p q h h' => absurd (UInt32.lt_trans h h') (UInt32.lt_irrefl p.index)⟩
  exact hps.eq_of_mem_iff hqs hmem

theorem Ascending.get?_flatMap (h : Ascending ps) {p : SentParameter} (hp : p ∈ ps) (f : Facet) :
    SortedMap.get? (ps.flatMap fields) (f.name p.index) = SortedMap.get? p.facets f := by
  induction ps with
  | nil => cases hp
  | cons q ps ih =>
    obtain ⟨hq, hps⟩ := List.pairwise_cons.mp h
    rw [List.flatMap_cons, SortedMap.get?_append]
    rcases List.mem_cons.mp hp with rfl | hp
    -- a facet that the parameter lacks must not be found among the later ones
    · have hrest : ∀ q ∈ ps, q.index ≠ p.index := by
        intro q hmem he
        have hlt := hq q hmem
        rw [he] at hlt
        exact UInt32.lt_irrefl _ hlt
      rw [get?_fields, get?_flatMap_of_ne hrest, Option.or_none]
    · have hne : q.index ≠ p.index := by
        intro he
        have hlt := hq p hp
        rw [he] at hlt
        exact UInt32.lt_irrefl _ hlt
      rw [get?_fields_of_ne hne, Option.none_or, ih hps hp]

end SentParameter

namespace SentStatement

/-- The fields that do not depend on the parameters. -/
def head (s : SentStatement) : Form :=
  [("sql", s.sql), ("prepared_statement", toString s.isPrepared),
    ("stored_procedure", toString s.isProcedure)] ++ Statement.resultFields s.gzip

def form (s : SentStatement) : Form := s.head ++ s.parameters.flatMap SentParameter.fields

theorem index?_of_mem_head {s : SentStatement} {name : String}
    (h : name ∈ SortedMap.keys s.head) (f : Facet) : f.index? name = none := by
  have hnames : name ∈ ["sql", "prepared_statement", "stored_procedure", "gzip_result",
      "pretty_printing"] := by
    revert h
    cases hg : s.gzip <;> simp [head, hg, SortedMap.keys, Statement.resultFields]
    tauto
  simp only [List.mem_cons, List.not_mem_nil, or_false] at hnames
  rcases hnames with rfl | rfl | rfl | rfl | rfl <;> cases f <;> rfl

theorem nodup_keys_head (s : SentStatement) : (SortedMap.keys s.head).Nodup := by
  cases hg : s.gzip <;> simp [head, hg, SortedMap.keys, Statement.resultFields]

theorem get?_parameters_of_head {ps : List SentParameter} {name : String}
    (h : ∀ f : Facet, f.index? name = none) :
    SortedMap.get? (ps.flatMap SentParameter.fields) name = none := by
  apply SortedMap.get?_eq_none
  rintro field hfield rfl
  obtain ⟨p, -, f, hf⟩ := SentParameter.exists_name_of_mem_flatMap hfield
  exact Facet.ne_name h f p.index hf

theorem get?_head_of_name (s : SentStatement) (f : Facet) (index : UInt32) :
    SortedMap.get? s.head (f.name index) = none := by
  apply SortedMap.get?_eq_none
  intro field hfield
  exact Facet.ne_name (index?_of_mem_head (List.mem_map_of_mem hfield)) f index

variable {s : SentStatement}

theorem nodup_keys_form (h : SentParameter.Ascending s.parameters) :
    (SortedMap.keys s.form).Nodup := by
  rw [SortedMap.keys, form, List.map_append]
  refine List.nodup_append.mpr ⟨s.nodup_keys_head, h.nodup_keys, ?_⟩
  rintro name hhead _ htail rfl
  obtain ⟨field, hfield, rfl⟩ := List.mem_map.mp htail
  obtain ⟨p, -, f, hf⟩ := SentParameter.exists_name_of_mem_flatMap hfield
  exact Facet.ne_name (index?_of_mem_head hhead) f p.index hf

theorem indexes_form (s : SentStatement) : Form.indexes s.form = s.parameters.map (·.index) := by
  have hhead : Form.indexes s.head = [] := by
    apply List.filterMap_eq_nil_iff.mpr
    intro field hfield
    exact index?_of_mem_head (List.mem_map_of_mem hfield) .type
  have htail : Form.indexes (s.parameters.flatMap SentParameter.fields) =
      s.parameters.map (·.index) := by
    induction s.parameters with
    | nil => rfl
    | cons p ps ih =>
      have happend : Form.indexes ((p :: ps).flatMap SentParameter.fields) =
          Form.indexes p.fields ++ Form.indexes (ps.flatMap SentParameter.fields) :=
        List.filterMap_append
      rw [happend, p.indexes_fields, ih]
      rfl
  have happend : Form.indexes s.form =
      Form.indexes s.head ++ Form.indexes (s.parameters.flatMap SentParameter.fields) :=
    List.filterMap_append
  rw [happend, hhead, htail, List.nil_append]

theorem get?_form_of_head {name : String} (h : ∀ f : Facet, f.index? name = none) :
    SortedMap.get? s.form name = SortedMap.get? s.head name := by
  rw [form, SortedMap.get?_append, get?_parameters_of_head h, Option.or_none]

theorem get?_form_of_name (h : SentParameter.Ascending s.parameters) {p : SentParameter}
    (hp : p ∈ s.parameters) (f : Facet) :
    SortedMap.get? s.form (f.name p.index) = SortedMap.get? p.facets f := by
  rw [form, SortedMap.get?_append, get?_head_of_name, Option.none_or, h.get?_flatMap hp]

theorem parameter?_form (h : SentParameter.Ascending s.parameters) {p : SentParameter}
    (hp : p ∈ s.parameters) : Form.parameter? s.form p.index = some p := by
  have htype : SortedMap.get? s.form (Facet.type.name p.index) = some p.type :=
    get?_form_of_name h hp .type
  have hvalue : SortedMap.get? s.form (Facet.value.name p.index) = some p.value :=
    get?_form_of_name h hp .value
  have hfacet : SortedMap.get? p.facets .direction = p.direction.map Direction.name := by
    cases hd : p.direction <;> simp [SentParameter.facets, hd, SortedMap.get?_cons]
  have hdirection : Form.optional? s.form (Facet.direction.name p.index) Direction.ofName? =
      some p.direction :=
    Form.optional?_of_get? Direction.ofName?_name ((get?_form_of_name h hp .direction).trans hfacet)
  simp only [Form.parameter?, htype, hvalue, hdirection, bind, Option.bind, pure]

theorem statement?_form (h : SentParameter.Ascending s.parameters) :
    Form.statement? s.form = some s := by
  have hsql : SortedMap.get? s.form "sql" = some s.sql :=
    get?_form_of_head fun f => by cases f <;> rfl
  have hprepared : SortedMap.get? s.form "prepared_statement" = some (toString s.isPrepared) :=
    get?_form_of_head fun f => by cases f <;> rfl
  have hprocedure : SortedMap.get? s.form "stored_procedure" = some (toString s.isProcedure) :=
    get?_form_of_head fun f => by cases f <;> rfl
  have hresult : SortedMap.get? s.head "gzip_result" = s.gzip.map toString := by
    cases hg : s.gzip <;> simp [head, hg, Statement.resultFields, SortedMap.get?_cons]
  have hgzip : Form.optional? s.form "gzip_result" Form.readTruth? = some s.gzip :=
    Form.optional?_of_get? Form.readTruth?_toString
      ((get?_form_of_head fun f => by cases f <;> rfl).trans hresult)
  have hparameters : (Form.indexes s.form).mapM (Form.parameter? s.form) = some s.parameters := by
    rw [indexes_form]
    exact Form.mapM_map_eq_some fun p hp => parameter?_form h hp
  simp only [Form.statement?, hsql, hprepared, hprocedure, hgzip, hparameters,
    Form.readTruth?_toString, bind, Option.bind, pure]

end SentStatement

namespace Parameter

variable {isProcedure : Bool}

def sent (isProcedure : Bool) (p : Parameter) : SentParameter where
  index := p.index
  type := p.type
  value := p.value.getD nullMarker
  direction := if isProcedure then some p.direction else none

theorem parameterFields_eq (isProcedure : Bool) (p : Parameter) :
    Statement.parameterFields isProcedure p = (p.sent isProcedure).fields := by
  cases isProcedure <;> rfl

def IsNull (p : Parameter) : Prop := p.value = none ∨ p.value = some nullMarker

/-- Two parameters are the same except for how they are null and, unless they are a procedure's,
for their directions. -/
structure Alike (isProcedure : Bool) (p q : Parameter) : Prop where
  index : p.index = q.index
  type : p.type = q.type
  value : p.value = q.value ∨ p.IsNull ∧ q.IsNull
  direction : isProcedure = true → p.direction = q.direction

theorem value_getD_eq_iff {p q : Parameter} :
    p.value.getD nullMarker = q.value.getD nullMarker ↔ p.value = q.value ∨ p.IsNull ∧ q.IsNull := by
  have hnull : ∀ p : Parameter, p.IsNull ↔ p.value.getD nullMarker = nullMarker := by
    intro p
    unfold IsNull
    cases p.value <;> simp
  rw [hnull, hnull]
  constructor
  · intro h
    cases hp : p.value with
    | none => exact Or.inr ⟨rfl, by rw [← h, hp]; rfl⟩
    | some v =>
      cases hq : q.value with
      | none => exact Or.inr ⟨by rw [← hp, h, hq]; rfl, rfl⟩
      | some v' => exact Or.inl (by simpa [hp, hq] using h)
  · rintro (h | ⟨hp, hq⟩)
    · rw [h]
    · rw [hp, hq]

theorem sent_eq_iff {p q : Parameter} :
    p.sent isProcedure = q.sent isProcedure ↔ p.Alike isProcedure q := by
  rw [sent, sent, SentParameter.mk.injEq, value_getD_eq_iff]
  constructor
  · rintro ⟨hindex, htype, hvalue, hdirection⟩
    refine ⟨hindex, htype, hvalue, ?_⟩
    rintro rfl
    simpa using hdirection
  · rintro ⟨hindex, htype, hvalue, hdirection⟩
    refine ⟨hindex, htype, hvalue, ?_⟩
    cases isProcedure with
    | false => rfl
    | true => simpa using hdirection

end Parameter

/-- A statement with the calls that bind its parameters, and whether a compressed result is asked
for. -/
structure Draft where
  sql : String
  isPrepared : Bool
  isProcedure : Bool
  gzip : Option Bool
  calls : List Parameters.Call
  deriving DecidableEq, Repr

namespace Draft

def statement (d : Draft) : Statement where
  sql := d.sql
  isPrepared := d.isPrepared
  isProcedure := d.isProcedure
  parameters := Parameters.built d.calls

def form (d : Draft) : Form := d.statement.form d.gzip

def sent (d : Draft) : SentStatement where
  sql := d.sql
  isPrepared := d.isPrepared
  isProcedure := d.isProcedure
  gzip := d.gzip
  parameters := (Parameters.built d.calls).toList.map (Parameter.sent d.isProcedure)

/-- Two drafts are the same except for bindings that were overtaken and for how parameters are
alike. -/
structure Alike (d e : Draft) : Prop where
  sql : d.sql = e.sql
  isPrepared : d.isPrepared = e.isPrepared
  isProcedure : d.isProcedure = e.isProcedure
  gzip : d.gzip = e.gzip
  kept : ∀ p, Parameters.Bound d.calls p →
    ∃ q, Parameters.Bound e.calls q ∧ p.Alike d.isProcedure q
  known : ∀ q, Parameters.Bound e.calls q →
    ∃ p, Parameters.Bound d.calls p ∧ p.Alike d.isProcedure q

theorem form_eq (d : Draft) : d.form = d.sent.form := by
  have hfields : Statement.parameterFields d.isProcedure =
      fun p => (p.sent d.isProcedure).fields := funext (Parameter.parameterFields_eq d.isProcedure)
  have hparameters : d.sent.parameters.flatMap SentParameter.fields =
      (Parameters.built d.calls).toList.flatMap (Statement.parameterFields d.isProcedure) := by
    rw [sent, List.flatMap_map, hfields]
  rw [SentStatement.form, hparameters]
  rfl

theorem ascending_sent (d : Draft) : SentParameter.Ascending d.sent.parameters :=
  List.pairwise_map.mpr (Parameters.ascending_toList_built d.calls)

theorem mem_sent {d : Draft} {p : SentParameter} :
    p ∈ d.sent.parameters ↔ ∃ q, Parameters.Bound d.calls q ∧ q.sent d.isProcedure = p := by
  simp only [sent, List.mem_map, Parameters.mem_toList_built]

theorem sent_eq_iff {d e : Draft} : d.sent = e.sent ↔ d.Alike e := by
  constructor
  · intro h
    have hprocedure : d.isProcedure = e.isProcedure := congrArg SentStatement.isProcedure h
    refine ⟨congrArg SentStatement.sql h, congrArg SentStatement.isPrepared h, hprocedure,
      congrArg SentStatement.gzip h, ?_, ?_⟩
    · intro p hp
      obtain ⟨q, hq, hsent⟩ := mem_sent.mp (h ▸ mem_sent.mpr ⟨p, hp, rfl⟩)
      exact ⟨q, hq, Parameter.sent_eq_iff.mp (hprocedure ▸ hsent.symm)⟩
    · intro q hq
      obtain ⟨p, hp, hsent⟩ := mem_sent.mp (h ▸ mem_sent.mpr ⟨q, hq, rfl⟩)
      exact ⟨p, hp, Parameter.sent_eq_iff.mp (hprocedure ▸ hsent)⟩
  · rintro ⟨hsql, hprepared, hprocedure, hgzip, hkept, hknown⟩
    have hparameters : d.sent.parameters = e.sent.parameters := by
      apply d.ascending_sent.ext e.ascending_sent
      intro b
      rw [mem_sent, mem_sent, ← hprocedure]
      constructor
      · rintro ⟨p, hp, rfl⟩
        obtain ⟨q, hq, halike⟩ := hkept p hp
        exact ⟨q, hq, (Parameter.sent_eq_iff.mpr halike).symm⟩
      · rintro ⟨q, hq, rfl⟩
        obtain ⟨p, hp, halike⟩ := hknown q hq
        exact ⟨p, hp, Parameter.sent_eq_iff.mpr halike⟩
    exact SentStatement.ext hsql hprepared hprocedure hgzip hparameters

theorem statement?_form (d : Draft) : Form.statement? d.form = some d.sent := by
  rw [form_eq]
  exact SentStatement.statement?_form d.ascending_sent

theorem form_eq_iff {d e : Draft} : d.form = e.form ↔ d.Alike e := by
  rw [← sent_eq_iff]
  constructor
  · intro h
    have hread := congrArg Form.statement? h
    rw [statement?_form, statement?_form] at hread
    exact Option.some.inj hread
  · intro h
    rw [form_eq, form_eq, h]

/-- What is read back from the form of a draft: all of it, with the last binding of each index. -/
structure Recovered (d : Draft) (s : SentStatement) : Prop where
  sql : s.sql = d.sql
  isPrepared : s.isPrepared = d.isPrepared
  isProcedure : s.isProcedure = d.isProcedure
  gzip : s.gzip = d.gzip
  ascending : s.parameters.Pairwise fun p q => p.index < q.index
  mem_iff : ∀ p, p ∈ s.parameters ↔
    ∃ q, Parameters.Bound d.calls q ∧ q.sent d.isProcedure = p

theorem form_recovered (d : Draft) :
    (SortedMap.keys d.form).Nodup ∧
    Url.Form.parse (Url.Form.encode d.form) = d.form ∧
    (∃ s, Form.statement? (Url.Form.parse (Url.Form.encode d.form)) = some s ∧ d.Recovered s) ∧
    ∀ e : Draft, d.form = e.form ↔ d.Alike e := by
  have hparse : Url.Form.parse (Url.Form.encode d.form) = d.form := Url.Form.parse_encode d.form
  refine ⟨?_, hparse, ⟨d.sent, ?_, ?_⟩, fun e => form_eq_iff⟩
  · rw [form_eq]
    exact SentStatement.nodup_keys_form d.ascending_sent
  · rw [hparse]
    exact d.statement?_form
  · exact ⟨rfl, rfl, rfl, rfl, d.ascending_sent, fun p => mem_sent⟩

end Draft

end RemoteSql
