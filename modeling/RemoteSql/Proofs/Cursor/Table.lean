import Mathlib
import RemoteSql.Proofs.Cursor.Course
import RemoteSql.Proofs.Cursor.Scanned
import RemoteSql.Proofs.Json.Numeral
import RemoteSql.Proofs.Json.Printing

/-!
# Result tables

A table of values goes through five layers before its values are seen again: the scan of the
payload, the text of a row, the cells of the row, the marker of null values and the getter. Whatever
spelling of the table is served, a cursor that is opened on it shows its values in their places.
-/

namespace RemoteSql

open Json (Legible Numeral Spaces Spells)

namespace Payload

/-- Where the object that is spelt holds the rows in an array, the scan finds them there and keeps
every other member as a field. -/
theorem scan_of_spells {before body after : Bytes} {ms : List (String × Json)} {vs : List Json}
    (hbefore : Spaces before) (hbody : Spells Json.maxDepth (.object ms) body)
    (hlegible : ∀ m ∈ ms, Legible m.2) (hnodup : (SortedMap.keys ms).Nodup)
    (hrows : (rowsField, .array vs) ∈ ms) :
    ∃ layout, scan (before ++ (body ++ after)) = .ok layout ∧
      (∀ m ∈ ms, m.1 ≠ rowsField → layout.fields.get? m.1 = some m.2) ∧
      List.Forall₂ (RowAt (before ++ (body ++ after))) layout.rowOffsets vs := by
  obtain ⟨text, rfl, henclosed⟩ : ∃ text, body = Ascii.openBrace :: text ∧
      Json.Enclosed (Json.Named (Spells (Json.maxDepth - 1))) Ascii.closeBrace ms text := by
    simpa only [Json.maxDepth, Spells] using hbody
  have hcount : ∀ name, (SortedMap.keys ms).count name ≤ 1 :=
    List.nodup_iff_count_le_one.mp hnodup
  have hget : ∀ m ∈ ms, SortedMap.get? ms m.1 = some m.2 := fun m hm =>
    SortedMap.get?_of_mem (hcount m.1) hm
  have harray : SortedMap.get? ms rowsField = some (.array vs) := hget _ hrows
  have hlists : ∀ v, SortedMap.get? ms rowsField = some v → v = .null ∨ ∃ vs, v = .array vs := by
    intro v hv
    rw [harray] at hv
    cases hv
    exact Or.inr ⟨vs, rfl⟩
  have hpayload : before ++ (Ascii.openBrace :: text ++ after) =
      before ++ Ascii.openBrace :: (text ++ after) := rfl
  obtain ⟨layout, hscan, hfields, hat⟩ := scan_of_enclosed hpayload hbefore
    (Json.enclosed_members hlegible henclosed) (hcount rowsField) hlists
  refine ⟨layout, hscan, ?_, ?_⟩
  · intro m hm hne
    rw [hfields, ← SortedMap.erase_ofList, SortedMap.get?_erase_of_ne hne, SortedMap.get?_ofList,
      SortedMap.get?_reverse (hcount m.1), hget m hm]
  · rw [harray] at hat
    exact hat

end Payload

/-- A value of a result table. -/
inductive Datum
  | null
  | text (s : String)
  | truth (b : Bool)
  | number (n : Numeral)
  deriving DecidableEq, Repr

namespace Datum

def json : Datum → Json
  | .null => .null
  | .text s => .string s
  | .truth b => .bool b
  | .number n => .number n.text

/-- What a getter of texts makes of a value: nothing of null and of the text that stands for it. -/
def shown : Datum → Option String
  | .null => none
  | .text s => if s = nullMarker then none else some s
  | .truth b => some (if b then "true" else "false")
  | .number n => some n.text

/-- The text of a value as a cell keeps it. -/
def raw (d : Datum) : String := d.json.fieldText?.getD nullMarker

theorem legible_json (d : Datum) : Legible d.json := by
  cases d with
  | null => exact Json.legible_null
  | text s => exact Json.legible_string s
  | truth b => exact Json.legible_bool b
  | number n => exact Json.legible_number n

theorem numeral_ne_nullMarker (n : Numeral) : n.text ≠ nullMarker := by
  intro h
  have hchars : n.chars = ['N', 'U', 'L', 'L'] := by
    simpa [Numeral.text, nullMarker] using congrArg String.toList h
  obtain ⟨c, cs, hcs⟩ := List.exists_cons_of_ne_nil (Nat.toDigits_ne_nil (n := n.whole) (b := 10))
  have hc : c.isDigit = true := Decimal.isDigit_of_mem_toDigits (hcs ▸ List.mem_cons_self)
  rw [Numeral.chars, hcs] at hchars
  cases hnegative : n.negative with
  | true => simp [hnegative] at hchars
  | false =>
    obtain ⟨rfl, -⟩ : c = 'N' ∧ _ := by simpa [hnegative] using hchars
    exact absurd hc (by decide)

theorem shown_eq (d : Datum) : (if d.raw = nullMarker then none else some d.raw) = d.shown := by
  cases d with
  | null => rfl
  | text s => rfl
  | truth b => cases b <;> rfl
  | number n =>
    have hraw : (Datum.number n).raw = n.text := by
      simp [raw, json, Json.fieldText?, Json.render, Json.chars]
    rw [hraw, if_neg (numeral_ne_nullMarker n)]
    rfl

end Datum

/-- A table as the server holds it: a value in every column of every row. -/
structure Table where
  columns : List String
  types : List String
  rows : List (List Datum)
  width : ∀ row ∈ rows, row.length = columns.length

namespace Table

variable (t : Table)

def cells (row : List Datum) : List Json :=
  (t.columns.zip row).map fun cell => .object [(cell.1, cell.2.json)]

/-- The rows are named by their numbers, from 1. -/
def rowJson (i : Nat) (row : List Datum) : Json :=
  .object [("row_" ++ toString (i + 1), .array (t.cells row))]

def members : List (String × Json) :=
  [("status", .string "OK"), ("column_types", .array (t.types.map .string)),
    (Payload.rowsField, .array (t.rows.mapIdx t.rowJson)),
    ("row_count", .number (toString t.rows.length))]

/-- The payloads that tell of a table, their members in any order and each in any spelling. -/
def Renders (payload : Bytes) : Prop :=
  ∃ ms before body after, ms.Perm t.members ∧ payload = before ++ (body ++ after) ∧
    Spaces before ∧ Spaces after ∧ Spells Json.maxDepth (.object ms) body

/-- The text of a table without white space. -/
def compact : String := (Json.object t.members).render

/-- Whether a column is selected by its place, counted from 0, or is the first of its name. -/
def Selects (col : Column) (j : Nat) : Prop :=
  col = .index (j + 1) ∨ ∃ name, col = .name name ∧ t.columns.findIdx? (· == name) = some j

/-- Tables whose column names do not make numbers of their cells. -/
def Nameable : Prop := t.rows = [] ∨ Json.numberName ∉ t.columns

variable {t} {payload : Bytes}

theorem legible_rowJson (hnames : Json.numberName ∉ t.columns) (i : Nat) (row : List Datum) :
    Legible (t.rowJson i row) := by
  have hname : "row_" ++ toString (i + 1) ≠ Json.numberName := by
    intro h
    have hhead := congrArg (fun s => s.toList.head?) h
    simp [Json.numberName] at hhead
  refine Json.legible_singleton (Json.legible_array fun v hv => ?_) hname
  obtain ⟨cell, hcell, rfl⟩ := List.mem_map.mp hv
  refine Json.legible_singleton cell.2.legible_json ?_
  rintro hcol
  exact hnames (hcol ▸ (List.of_mem_zip hcell).1)

theorem legible_members (h : t.Nameable) : ∀ m ∈ t.members, Legible m.2 := by
  have htypes : Legible (.array (t.types.map .string)) := by
    refine Json.legible_array fun v hv => ?_
    obtain ⟨s, -, rfl⟩ := List.mem_map.mp hv
    exact Json.legible_string s
  have hrows : Legible (.array (t.rows.mapIdx t.rowJson)) := by
    refine Json.legible_array fun v hv => ?_
    obtain ⟨i, hi, rfl⟩ := List.mem_mapIdx.mp hv
    rcases h with h | h
    · simp [h] at hi
    · exact legible_rowJson h i _
  have hcount : Legible (.number (toString t.rows.length)) := by
    have hliteral : toString t.rows.length = Numeral.text ⟨false, t.rows.length, []⟩ := by
      simp [Numeral.text, Numeral.chars, Numeral.fractionChars, Nat.repr_eq_ofList_toDigits]
    rw [hliteral]
    exact Json.legible_number _
  simp only [members, List.forall_mem_cons, List.not_mem_nil, false_imp_iff, implies_true, and_true]
  exact ⟨Json.legible_string "OK", htypes, hrows, hcount⟩

theorem renders_compact (t : Table) : t.Renders (Utf8.encode t.compact) := by
  have hnests : Json.NestsWithin Json.maxDepth (.object t.members) := by
    have hcell : ∀ row, ∀ v ∈ t.cells row, Json.NestsWithin 123 v := by
      intro row v hv
      obtain ⟨cell, -, rfl⟩ := List.mem_map.mp hv
      cases hd : cell.2 <;> simp [Json.NestsWithin, Datum.json]
    have hrow : ∀ i row, Json.NestsWithin 125 (t.rowJson i row) := by
      intro i row
      simpa [rowJson, Json.NestsWithin] using hcell row
    have hrows : ∀ v ∈ t.rows.mapIdx t.rowJson, Json.NestsWithin 125 v := by
      intro v hv
      obtain ⟨i, hi, rfl⟩ := List.mem_mapIdx.mp hv
      exact hrow i _
    simpa [Json.maxDepth, members, Json.NestsWithin] using hrows
  exact ⟨t.members, [], _, [], .rfl, (List.append_nil _).symm, Json.spaces_nil, Json.spaces_nil,
    Json.spells_render hnests⟩

theorem nodup_keys_members (t : Table) : (SortedMap.keys t.members).Nodup := by
  have hkeys : SortedMap.keys t.members =
      ["status", "column_types", Payload.rowsField, "row_count"] := rfl
  rw [hkeys]
  decide

/-- The rows of a payload, and its other fields. -/
theorem Renders.scan (h : t.Renders payload) (hnames : t.Nameable) :
    ∃ layout, Payload.scan payload = .ok layout ∧
      (∀ m ∈ t.members, m.1 ≠ Payload.rowsField → layout.fields.get? m.1 = some m.2) ∧
      List.Forall₂ (Payload.RowAt payload) layout.rowOffsets (t.rows.mapIdx t.rowJson) := by
  obtain ⟨ms, before, body, after, hperm, rfl, hbefore, -, hbody⟩ := h
  have hlegible : ∀ m ∈ ms, Legible m.2 := fun m hm =>
    legible_members hnames m (hperm.mem_iff.mp hm)
  have hnodup : (SortedMap.keys ms).Nodup :=
    (hperm.map Prod.fst).nodup_iff.mpr t.nodup_keys_members
  have hrows : (Payload.rowsField, Json.array (t.rows.mapIdx t.rowJson)) ∈ ms :=
    hperm.mem_iff.mpr (by simp [members])
  obtain ⟨layout, hscan, hfields, hat⟩ :=
    Payload.scan_of_spells hbefore hbody hlegible hnodup hrows
  exact ⟨layout, hscan, fun m hm hne => hfields m (hperm.mem_iff.mpr hm) hne, hat⟩

theorem cells_rowJson (t : Table) (n i : Nat) (row : List Datum) :
    Row.cells n (t.rowJson i row) =
      .ok ((t.columns.zip row).map fun cell => ⟨cell.1, cell.2.raw⟩) := by
  have hcell : ∀ cs : List (String × Datum),
      (cs.map fun cell => Json.object [(cell.1, cell.2.json)]).mapM (Row.cell n) =
        .ok (cs.map fun cell => ⟨cell.1, cell.2.raw⟩) := by
    intro cs
    induction cs with
    | nil => rfl
    | cons cell cs ih =>
      rw [List.map_cons, List.mapM_cons, ih]
      rfl
  exact hcell _

variable {layout : Layout}

/-- The declared row count, or the rows received when it does not fit 64 bits. -/
theorem rowCount_eq {fields : Json.Members} {n : Nat}
    (h : fields.get? "row_count" = some (.number (toString n))) (status : HttpStatus) :
    Envelope.rowCount ⟨.success fields, status⟩ n = .ok n := by
  have hinteger : Envelope.integer? ⟨.success fields, status⟩ "row_count" =
      Decimal.readSigned? 64 (toString n) := by
    simp [Envelope.integer?, Envelope.document, h, Json.integer?]
  have hliteral : (toString n).toList = Nat.toDigits 10 n := Nat.toList_repr
  rw [Envelope.rowCount, hinteger, Decimal.readSigned?, hliteral, Decimal.signed?_toDigits]
  by_cases hfits : Decimal.FitsSigned 64 n
  · have hread : (some (n : Int)).filter (fun m => decide (Decimal.FitsSigned 64 m)) = some n := by
      simp [hfits]
    rw [hread]
    simp
  · have hread : (some (n : Int)).filter (fun m => decide (Decimal.FitsSigned 64 m)) = none := by
      simp [hfits]
    rw [hread]

/-- What is known of a payload that tells of a table, once it has been scanned. -/
structure Scanned (t : Table) (payload : Bytes) (layout : Layout) : Prop where
  status_eq : Envelope.statusOf layout.fields = some .ok
  types_eq : Cursor.typesOf layout.fields = t.types
  rowCount_eq : layout.fields.get? "row_count" = some (.number (toString t.rows.length))
  length_eq : layout.rowOffsets.length = t.rows.length
  rowCells_eq : ∀ i row, t.rows[i]? = some row → layout.rowCells payload (i + 1) =
    .ok ((t.columns.zip row).map fun cell => ⟨cell.1, cell.2.raw⟩)

theorem Renders.scanned (h : t.Renders payload) (hnames : t.Nameable) :
    ∃ layout, Payload.scan payload = .ok layout ∧ t.Scanned payload layout := by
  obtain ⟨layout, hscan, hfields, hat⟩ := h.scan hnames
  have hstatus := hfields ("status", .string "OK") (by simp [members]) (by decide)
  have htypes := hfields ("column_types", .array (t.types.map .string)) (by simp [members])
    (by simp [Payload.rowsField])
  have hcount := hfields ("row_count", .number (toString t.rows.length)) (by simp [members])
    (by simp [Payload.rowsField])
  refine ⟨layout, hscan, ?_, ?_, hcount, by simpa using hat.length_eq, ?_⟩
  · rw [Envelope.statusOf, hstatus]
    decide
  · rw [Cursor.typesOf, htypes]
    simp [Json.items?, List.filterMap_map, Function.comp_def, Json.fieldText?]
  · intro i row hrow
    have hv : (t.rows.mapIdx t.rowJson)[i]? = some (t.rowJson i row) := by
      rw [List.getElem?_mapIdx, hrow]
      rfl
    rw [Payload.rowCells_of_rowsAt hat hv, cells_rowJson]

theorem Scanned.opens (h : t.Scanned payload layout) (hscan : Payload.scan payload = .ok layout)
    (status : HttpStatus) :
    ∃ c, Cursor.ofPayload payload status = .ok c ∧ Cursor.Fresh payload layout c ∧
      c.rowCount = t.rows.length ∧ c.columnTypes = t.types := by
  have hfirst : t.rows.length ≠ 0 → ∃ cells, layout.rowCells payload 1 = .ok cells := by
    intro hne
    exact ⟨_, h.rowCells_eq 0 _ (List.getElem?_eq_getElem (Nat.pos_of_ne_zero hne))⟩
  obtain ⟨c, hc, hcount, htypes⟩ := Cursor.exists_ofLayout h.length_eq.ge hfirst
  refine ⟨c, ?_, Cursor.fresh_of_ofLayout hc, hcount, htypes.trans h.types_eq⟩
  rw [Cursor.ofPayload_of_scan hscan h.status_eq, h.length_eq, Table.rowCount_eq h.rowCount_eq]
  exact hc

theorem map_raw_zip (t : Table) {row : List Datum} (hrow : row ∈ t.rows) :
    ((t.columns.zip row).map fun cell => (⟨cell.1, cell.2.raw⟩ : Cell)).map (·.raw) =
      row.map Datum.raw := by
  have hsnd : (t.columns.zip row).map Prod.snd = row := List.map_snd_zip (t.width row hrow).le
  rw [List.map_map]
  conv_rhs => rw [← hsnd, List.map_map]
  rfl

theorem map_name_zip (t : Table) {row : List Datum} (hrow : row ∈ t.rows) :
    ((t.columns.zip row).map fun cell => (⟨cell.1, cell.2.raw⟩ : Cell)).map (·.name) =
      t.columns := by
  rw [List.map_map]
  exact List.map_fst_zip (t.width row hrow).ge

/-- A cursor at a row shows the value in the column that is asked for. -/
theorem getString_of_values {c : Cursor} {row : List Datum} {col : Column} {j : Nat} {d : Datum}
    (hopen : c.isClosed = false) (hvalues : c.values = row.map Datum.raw)
    (hnames : c.columnNames = t.columns) (hcol : t.Selects col j) (hd : row[j]? = some d) :
    (c.getString col).1 = .ok d.shown := by
  have hplace : c.place? col = some j := by
    rcases hcol with rfl | ⟨name, rfl, hname⟩
    · rfl
    · rw [Cursor.place?, hnames, hname]
  have htext : c.cellText col = .ok d.raw := by
    simp [Cursor.cellText, Cursor.ensureOpen_of_open hopen, hplace, hvalues, hd]
  rw [Cursor.getString, Cursor.access_fst, htext, ← d.shown_eq]
  rfl

/-- A table that has a value has named the columns when its first row was read. -/
theorem Scanned.columnNames_eq (h : t.Scanned payload layout) {s : Cursor.Course}
    (hs : Cursor.Consistent payload layout t.rows.length s) {row : List Datum}
    (hrow : row ∈ t.rows) {j : Nat} {d : Datum} (hd : row[j]? = some d) :
    s.cursor.columnNames = t.columns := by
  have hpos : 0 < t.rows.length := List.length_pos_of_mem hrow
  have hfirst : t.rows[0] ∈ t.rows := List.getElem_mem hpos
  have hcells := h.rowCells_eq 0 _ (List.getElem?_eq_getElem hpos)
  rw [← map_name_zip t hfirst]
  refine hs.columnNames_eq hpos _ hcells ?_
  have hcolumns : t.columns.length ≠ 0 := by
    obtain ⟨hj, -⟩ := List.getElem?_eq_some_iff.mp hd
    rw [← t.width row hrow]
    omega
  rw [← List.length_pos_iff, List.length_map, List.length_zip, t.width _ hfirst, Nat.min_self]
  omega

/-- At whatever row the cursor is, and whatever was done with it before. -/
theorem Scanned.absolute_eq (h : t.Scanned payload layout) {s : Cursor.Course}
    (hs : Cursor.Consistent payload layout t.rows.length s) (hopen : s.cursor.isClosed = false)
    {i : Nat} {row : List Datum} (hrow : t.rows[i]? = some row) :
    ∃ c', s.cursor.absolute (i + 1) = (.ok true, c') ∧ c'.position = i + 1 ∧
      ∀ col j d, t.Selects col j → row[j]? = some d → (c'.getString col).1 = .ok d.shown := by
  have hle : i + 1 ≤ t.rows.length := (List.getElem?_eq_some_iff.mp hrow).1
  have hmem : row ∈ t.rows := List.mem_of_getElem? hrow
  obtain ⟨c', hgo, hopen', hposition, hvalues⟩ := hs.goTo_eq hopen (h.rowCells_eq i row hrow)
  rw [map_raw_zip t hmem] at hvalues
  have habsolute : s.cursor.absolute (i + 1) = (.ok true, c') := by
    have hjump := Cursor.absolute_eq hopen ((i + 1 : Nat) : Int)
    rw [hs.rowCount_eq, Cursor.jump_natCast hle] at hjump
    rw [← hgo]
    exact hjump.trans (Cursor.enter_of_row (Nat.le_add_left 1 i) (hs.rowCount_eq ▸ hle))
  refine ⟨c', habsolute, hposition, ?_⟩
  intro col j d hcol hd
  have hnames : (Cursor.Move.run (.absolute (i + 1)) s.cursor).2.columnNames = t.columns :=
    h.columnNames_eq (hs.move (.absolute (i + 1))) hmem hd
  rw [Cursor.Move.run, habsolute] at hnames
  exact getString_of_values hopen' hvalues hnames hcol hd

theorem Renders.isGzip_eq (h : t.Renders payload) : Gzip.isGzip payload = false := by
  obtain ⟨ms, before, body, after, -, rfl, hbefore, -, hbody⟩ := h
  obtain ⟨text, rfl, -⟩ : ∃ text, body = Ascii.openBrace :: text ∧ _ := by
    simpa only [Json.maxDepth, Spells] using hbody
  exact Payload.isGzip_eq hbefore (text ++ after)

/-- Whatever the spelling in which a table is served, a cursor opens on it, counts its rows and
names its columns, and at every row it shows every value: nothing for null and for the text that
stands for it, and else the text, the word or the digits that were written. -/
theorem ofResponse_renders {r : Response} (hrenders : t.Renders r.body.octets)
    (hnames : t.Nameable) (hunfailing : r.body.Unfailing)
    (hhead : r.body.pending.head? ≠ some .interruption) :
    ∃ c, Cursor.ofResponse r = .ok c ∧ c.rowCount = t.rows.length ∧ c.columnTypes = t.types ∧
      (t.rows ≠ [] → c.columnNames = t.columns) ∧
      ∀ calls, (Cursor.course c calls).cursor.isClosed = false →
        ∀ (i : Nat) (row : List Datum), t.rows[i]? = some row →
          ∃ c', (Cursor.course c calls).cursor.absolute (i + 1) = (.ok true, c') ∧
            c'.position = i + 1 ∧
            ∀ col j d, t.Selects col j → row[j]? = some d →
              (c'.getString col).1 = .ok d.shown := by
  obtain ⟨layout, hscan, hscanned⟩ := hrenders.scanned hnames
  obtain ⟨c, hc, hfresh, hcount, htypes⟩ := hscanned.opens hscan r.status
  have hplain := Source.plain_eq hunfailing hhead hrenders.isGzip_eq
  refine ⟨c, ?_, hcount, htypes, ?_, ?_⟩
  · rw [Cursor.ofResponse, hplain]
    exact hc
  · intro hne
    have hpos : 0 < t.rows.length := List.length_pos_iff.mpr hne
    obtain ⟨cells, hcells, hcolumns⟩ := hfresh.columnNames_eq (hcount ▸ hpos)
    rw [hscanned.rowCells_eq 0 _ (List.getElem?_eq_getElem hpos)] at hcells
    cases hcells
    rw [hcolumns, map_name_zip t (List.getElem_mem hpos)]
  · intro calls hopen i row hrow
    have hused := hfresh.consistent.course calls
    rw [hcount] at hused
    exact hscanned.absolute_eq hused hopen hrow

theorem ofResponse_renders_decimal :
    ∃ (t : Table) (c c' : Cursor),
      t.columns = ["a", "a"] ∧ t.rows = [[.number ⟨true, 10, [5, 0]⟩, .text "]\""]] ∧
      Cursor.ofResponse ⟨.ofBytes (Utf8.encode t.compact), ⟨200, "OK"⟩⟩ = .ok c ∧
      c.absolute 1 = (.ok true, c') ∧ (c'.getString (.name "a")).1 = .ok (some "-10.50") ∧
      (c'.getString (.index 2)).1 = .ok (some "]\"") := by
  obtain ⟨t, hcolumns, hrows⟩ : ∃ t : Table, t.columns = ["a", "a"] ∧
      t.rows = [[.number ⟨true, 10, [5, 0]⟩, .text "]\""]] :=
    ⟨⟨["a", "a"], [], [[.number ⟨true, 10, [5, 0]⟩, .text "]\""]], by decide⟩, rfl, rfl⟩
  have hrenders : t.Renders (Source.ofBytes (Utf8.encode t.compact)).octets := by
    rw [Source.octets_ofBytes]
    exact t.renders_compact
  have hnames : t.Nameable := Or.inr (by rw [hcolumns]; decide)
  obtain ⟨c, hc, -, -, -, hall⟩ := ofResponse_renders
    (r := ⟨.ofBytes (Utf8.encode t.compact), ⟨200, "OK"⟩⟩) hrenders hnames
    (Source.unfailing_ofBytes _) (Source.head?_ofBytes _)
  have hopen : c.isClosed = false := by
    rw [Cursor.ofResponse_ofBytes t.renders_compact.isGzip_eq] at hc
    obtain ⟨layout, -, hfresh⟩ := Cursor.exists_layout_of_ofPayload hc
    exact hfresh.isClosed_eq
  obtain ⟨c', hrow, -, hcells⟩ := hall [] hopen 0 _ (by rw [hrows]; rfl)
  refine ⟨t, c, c', hcolumns, hrows, hc, hrow, ?_, ?_⟩
  · exact hcells (.name "a") 0 _ (Or.inr ⟨"a", rfl, by rw [hcolumns]; decide⟩) rfl
  · exact hcells (.index 2) 1 _ (Or.inl rfl) rfl

/-- The cells of a column of the reserved name are numbers where they hold the text of one and else
no JSON, so that no row of them can be read. -/
theorem ofResponse_numberName :
    ∃ t : Table, t.columns = [Json.numberName] ∧ t.rows = [[.text "x"]] ∧
      t.Renders (Utf8.encode t.compact) ∧
      Cursor.ofResponse ⟨.ofBytes (Utf8.encode t.compact), ⟨200, "OK"⟩⟩ =
        .error (.protocol .invalidJson) := by
  obtain ⟨t, hcolumns, hrows, hfault⟩ : ∃ t : Table, t.columns = [Json.numberName] ∧
      t.rows = [[.text "x"]] ∧ fault? (Cursor.ofPayload (Utf8.encode t.compact) ⟨200, "OK"⟩) =
        some (.protocol .invalidJson) :=
    ⟨⟨[Json.numberName], ["CHAR"], [[.text "x"]], by decide⟩, rfl, rfl, by decide +kernel⟩
  refine ⟨t, hcolumns, hrows, t.renders_compact, ?_⟩
  rw [Cursor.ofResponse_ofBytes t.renders_compact.isGzip_eq]
  exact eq_error_of_fault? hfault

end Table

end RemoteSql
