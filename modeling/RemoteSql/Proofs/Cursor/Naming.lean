import Mathlib
import RemoteSql.Proofs.Cursor.Course

/-!
# Columns by name

A name stands for the first column that has it, so a getter that is given a name does what it does
at the place of that column. Where all rows list the same columns, this is the first cell of the
name in whatever row is current.
-/

namespace RemoteSql

/-- The same error about another column, where it is about a column. -/
def Error.about (col : Column) : Error → Error
  | .invalidColumn (.unknown _) => .invalidColumn (.unknown col)
  | .dataFormat (.notA type _ raw) => .dataFormat (.notA type col raw)
  | e => e

theorem Error.kind_about (col : Column) (e : Error) : (e.about col).kind = e.kind := by
  unfold about
  split <;> rfl

namespace Cursor

/-- What access by a name comes to. -/
structure Naming (layout : Layout) (payload : Bytes) (c : Cursor) (name : String) : Prop where
  find_iff : ∀ i, c.findColumn name = .ok i ↔
    c.columnName i = .ok name ∧ ∀ j < i, c.columnName j ≠ .ok name
  find_error : (∀ i, c.columnName i ≠ .ok name) →
    c.findColumn name = .error (.invalidColumn (.unknown (.name name)))
  run_eq : ∀ i, c.findColumn name = .ok i → ∀ g,
    Getter.run g c (.name name) =
      ((g.run c (.index i)).1.mapError (·.about (.name name)), (g.run c (.index i)).2)
  kind_eq : ∀ i, c.findColumn name = .ok i → ∀ g,
    (Getter.run g c (.name name)).1.mapError Error.kind =
      (g.run c (.index i)).1.mapError Error.kind
  unknown : c.isClosed = false → (∀ i, c.columnName i ≠ .ok name) → ∀ g,
    Getter.run g c (.name name) = (.error (.invalidColumn (.unknown (.name name))), c)
  atEnd : c.isClosed = false → c.position = 0 ∨ c.position = c.rowCount + 1 → ∀ g,
    Getter.run g c (.name name) = (.error (.invalidColumn (.unknown (.name name))), c)
  /-- The current row has not as many cells as the first one. -/
  shortRow : c.isClosed = false → 1 ≤ c.position → c.position ≤ c.rowCount → ∀ cells i,
    layout.rowCells payload c.position = .ok cells → c.findColumn name = .ok i →
    cells.length < i → ∀ g,
    Getter.run g c (.name name) = (.error (.invalidColumn (.unknown (.name name))), c)

variable {c : Cursor} {col col' : Column} {name : String} {i : Nat}

theorem columnName_eq_ok_iff :
    c.columnName i = .ok name ↔ ∃ k, i = k + 1 ∧ c.columnNames[k]? = some name := by
  cases i with
  | zero => simp [columnName]
  | succ k =>
    rw [columnName, if_neg k.succ_ne_zero, Nat.add_sub_cancel]
    cases hk : c.columnNames[k]? <;> simp [hk]

theorem findColumn_eq_ok_iff : c.findColumn name = .ok i ↔
    ∃ k, i = k + 1 ∧ c.columnNames.findIdx? (· == name) = some k := by
  rw [findColumn]
  cases c.columnNames.findIdx? (· == name) <;> simp [eq_comm]

/-- A name is found at the first column that has it. -/
theorem findColumn_eq_ok_iff_first : c.findColumn name = .ok i ↔
    c.columnName i = .ok name ∧ ∀ j < i, c.columnName j ≠ .ok name := by
  rw [findColumn_eq_ok_iff, columnName_eq_ok_iff]
  constructor
  · rintro ⟨k, rfl, hk⟩
    obtain ⟨hlt, hname, hfirst⟩ := List.findIdx?_eq_some_iff_getElem.mp hk
    refine ⟨⟨k, rfl, List.getElem?_eq_some_iff.mpr ⟨hlt, eq_of_beq hname⟩⟩, fun j hj hname' => ?_⟩
    obtain ⟨k', rfl, hk'⟩ := columnName_eq_ok_iff.mp hname'
    obtain ⟨hlt', hname'⟩ := List.getElem?_eq_some_iff.mp hk'
    exact hfirst k' (by omega) (beq_iff_eq.mpr hname')
  · rintro ⟨⟨k, rfl, hk⟩, hfirst⟩
    obtain ⟨hlt, hname⟩ := List.getElem?_eq_some_iff.mp hk
    refine ⟨k, rfl, List.findIdx?_eq_some_iff_getElem.mpr ⟨hlt, beq_iff_eq.mpr hname, ?_⟩⟩
    intro k' hk' hname'
    refine hfirst (k' + 1) (by omega) (columnName_eq_ok_iff.mpr ⟨k', rfl, ?_⟩)
    exact List.getElem?_eq_some_iff.mpr ⟨by omega, eq_of_beq hname'⟩

theorem findIdx?_of_unknown (h : ∀ i, c.columnName i ≠ .ok name) :
    c.columnNames.findIdx? (· == name) = none := by
  cases hfind : c.columnNames.findIdx? (· == name) with
  | none => rfl
  | some k =>
    have hfound := findColumn_eq_ok_iff.mpr ⟨k, rfl, hfind⟩
    exact absurd (findColumn_eq_ok_iff_first.mp hfound).1 (h _)

theorem place?_of_findColumn (h : c.findColumn name = .ok i) :
    c.place? (.name name) = c.place? (.index i) := by
  obtain ⟨k, rfl, hk⟩ := findColumn_eq_ok_iff.mp h
  exact hk

theorem cellText_about (h : c.place? col = c.place? col') :
    c.cellText col = (c.cellText col').mapError (·.about col) := by
  cases hc : c.isClosed with
  | true =>
    rw [cellText_of_closed hc, cellText_of_closed hc]
    rfl
  | false =>
    rw [cellText, cellText, ensureOpen_of_open hc, h]
    dsimp only
    cases (c.place? col').bind (c.values[·]?) <;> rfl

theorem map_orNotA_about {α : Type} (col col' : Column) (type : CellType) (raw : String)
    (kind : α → Reading) (a : Option α) :
    (orNotA type col raw a).map kind =
      ((orNotA type col' raw a).map kind).mapError (·.about col) := by
  cases a <;> rfl

theorem Getter.judge_about (g : Getter) (col col' : Column) (raw : String) :
    g.judge col raw = (g.judge col' raw).mapError (·.about col) := by
  cases g with
  | string | boolean | blobReference => rfl
  | int | long | short | float | double =>
    dsimp only [judge]
    exact map_orNotA_about ..
  | date | timestamp =>
    dsimp only [judge]
    split <;> exact map_orNotA_about ..

/-- A getter does the same at two columns in one place, but for the column that its errors are
about. -/
theorem Getter.run_about (g : Getter) (h : c.place? col = c.place? col') :
    g.run c col = ((g.run c col').1.mapError (·.about col), (g.run c col').2) := by
  have htext := cellText_about h
  cases htext' : c.cellText col' with
  | error e =>
    rw [htext'] at htext
    rw [g.run_of_error htext, g.run_of_error htext']
    rfl
  | ok raw =>
    rw [htext'] at htext
    rw [g.run_of_text htext, g.run_of_text htext', g.judge_about col col']
    by_cases hnull : raw = nullMarker
    · simp only [if_pos hnull]
      rfl
    · simp only [if_neg hnull]

theorem Getter.kind_about (g : Getter) (h : c.place? col = c.place? col') :
    (g.run c col).1.mapError Error.kind = (g.run c col').1.mapError Error.kind := by
  rw [g.run_about h]
  cases (g.run c col').1 with
  | error e => exact congrArg Except.error (e.kind_about col)
  | ok v => rfl

theorem Getter.run_of_no_value (g : Getter) (hopen : c.isClosed = false)
    (hnone : ∀ i, c.place? col = some i → c.values[i]? = none) :
    g.run c col = (.error (.invalidColumn (.unknown col)), c) :=
  g.run_of_error (cellText_eq_error hopen hnone)

variable {payload : Bytes} {layout : Layout} {n : Nat} {s : Course}

theorem Consistent.naming (h : Consistent payload layout n s) (name : String) :
    Naming layout payload s.cursor name where
  find_iff _ := findColumn_eq_ok_iff_first
  find_error hunknown := by rw [findColumn, findIdx?_of_unknown hunknown]
  run_eq _ hfound g := g.run_about (place?_of_findColumn hfound)
  kind_eq _ hfound g := g.kind_about (place?_of_findColumn hfound)
  unknown hopen hunknown g := by
    refine g.run_of_no_value hopen fun i hi => ?_
    rw [place?, findIdx?_of_unknown hunknown] at hi
    cases hi
  atEnd hopen hend g := by
    refine g.run_of_no_value hopen fun i _ => ?_
    rw [h.rowCount_eq] at hend
    rw [h.values_of_end hend]
    rfl
  shortRow hopen hpos hle cells i hcells hfound hshort g := by
    refine g.run_of_no_value hopen fun k hk => ?_
    obtain ⟨k', rfl, hk'⟩ := findColumn_eq_ok_iff.mp hfound
    rw [place?, hk'] at hk
    cases hk
    rw [h.rowCount_eq] at hle
    obtain ⟨cells', hcells', hvalues⟩ := h.values_of_row hopen hpos hle
    rw [hcells] at hcells'
    cases hcells'
    rcases hvalues with hvalues | ⟨hnil, -⟩
    · rw [hvalues, List.getElem?_map, List.getElem?_eq_none (by omega)]
      rfl
    · rw [hnil]
      rfl

/-- A row that names the columns as the cursor does is looked up by name cell by cell. -/
theorem cellText_name {cells : List Cell} (hopen : c.isClosed = false)
    (hvalues : c.values = cells.map (·.raw))
    (hnames : cells ≠ [] → c.columnNames = cells.map (·.name)) (name : String) :
    c.cellText (.name name) = match cells.find? (·.name == name) with
      | some cell => .ok cell.raw
      | none => .error (.invalidColumn (.unknown (.name name))) := by
  by_cases hnil : cells = []
  · subst hnil
    refine cellText_eq_error hopen fun i _ => ?_
    rw [hvalues]
    rfl
  · have hplace : (c.place? (.name name)).bind (c.values[·]?) =
        (cells.find? (·.name == name)).map (·.raw) := by
      rw [place?, hnames hnil, hvalues, List.findIdx?_map, List.find?_eq_bind_findIdx?_getElem?,
        Option.map_bind]
      simp only [List.getElem?_map]
      rfl
    rw [cellText, ensureOpen_of_open hopen]
    dsimp only
    rw [hplace]
    cases cells.find? (·.name == name) <;> rfl

/-- Where all rows list the same columns, the names are those of whatever row is read. -/
theorem Consistent.columnNames_of_row (h : Consistent payload layout n s) {names : List String}
    {first cells : List Cell} (hn : 1 ≤ n) (hfirst : layout.rowCells payload 1 = .ok first)
    (hfirst' : first.map (·.name) = names) (hcells : cells.map (·.name) = names)
    (hne : cells ≠ []) : s.cursor.columnNames = cells.map (·.name) := by
  have hne' : first ≠ [] := by
    rintro rfl
    rw [← hfirst'] at hcells
    exact hne (List.map_eq_nil_iff.mp hcells)
  rw [h.columnNames_eq hn first hfirst hne', hfirst', hcells]

/-- In every state of a cursor a name is found at the first column that has it, and a getter that is
given the name does what it does there; it finds no column if no column has the name, at the ends
and in a row that is too short. Where all rows list the same columns, the name gives the value of
the first cell of that name in the row that was moved to. -/
theorem naming_course (h : Opened payload c) :
    ∃ layout, Payload.scan payload = .ok layout ∧
      (∀ calls name, Naming layout payload (course c calls).cursor name) ∧
      ∀ names, (∀ row cells, 1 ≤ row → row ≤ c.rowCount →
          layout.rowCells payload row = .ok cells → cells.map (·.name) = names) →
        ∀ calls m p, (Move.run m (course c calls).cursor).1 = .ok true →
          (m.run (course c calls).cursor).2.position = p → 1 ≤ p → p ≤ c.rowCount →
          ∃ cells, layout.rowCells payload p = .ok cells ∧ ∀ name,
            ((m.run (course c calls).cursor).2.getString (.name name)).1 =
              match cells.find? (·.name == name) with
              | some cell => .ok (if cell.raw = nullMarker then none else some cell.raw)
              | none => .error (.invalidColumn (.unknown (.name name))) := by
  obtain ⟨layout, hscan, hfresh⟩ := h.exists_layout
  refine ⟨layout, hscan, fun calls name => (hfresh.consistent.course calls).naming name, ?_⟩
  intro names hrows calls m p hok hp hpos hle
  have hused := hfresh.consistent.course calls
  have hmoved : Consistent payload layout c.rowCount ((course c calls).call (.move m)) :=
    hused.move m
  obtain ⟨hopen, -, hrun, cells, hcells⟩ := hused.row?_of_reached hok hp hpos hle
  obtain ⟨c', hgo, hopen', -, hvalues⟩ := hused.goTo_eq hopen hcells
  have hn : 1 ≤ c.rowCount := hpos.trans hle
  obtain ⟨first, hfirst, -⟩ := hfresh.columnNames_eq hn
  have hthere : (m.run (course c calls).cursor).2 = c' := by rw [hrun, hgo]
  have hnames : cells ≠ [] → c'.columnNames = cells.map (·.name) := by
    rw [← hthere]
    exact hmoved.columnNames_of_row hn hfirst (hrows 1 first le_rfl hn hfirst)
      (hrows p cells hpos hle hcells)
  refine ⟨cells, hcells, fun name => ?_⟩
  rw [hthere, getString, access_fst, cellText_name hopen' hvalues hnames]
  cases cells.find? (·.name == name) <;> rfl

/-- Two columns of one name, in two rows that list the same columns. -/
theorem naming_course_repeated :
    ∃ c : Cursor, openPayload (Utf8.encode ("\x7b\"status\":\"OK\",\"query_rows\":[" ++
        "[\x7b\"a\":1\x7d,\x7b\"a\":2\x7d],[\x7b\"a\":3\x7d,\x7b\"a\":4\x7d]]\x7d")) 2 = .ok c ∧
      c.columnNames = ["a", "a"] ∧ ((c.absolute 2).2.getString (.name "a")).1 = .ok (some "3") := by
  generalize hpayload : Utf8.encode ("\x7b\"status\":\"OK\",\"query_rows\":[" ++
    "[\x7b\"a\":1\x7d,\x7b\"a\":2\x7d],[\x7b\"a\":3\x7d,\x7b\"a\":4\x7d]]\x7d") = payload
  have hused : (openPayload payload 2).toOption.map (fun c =>
      (c.columnNames, c.rowCount, (c.absolute 2).1.toOption, (c.absolute 2).2.position)) =
        some (["a", "a"], 2, some true, 2) := by
    subst hpayload
    decide +kernel
  have hrows : (Payload.scan payload).toOption.map (fun layout =>
      ((layout.rowCells payload 1).toOption, (layout.rowCells payload 2).toOption)) =
        some (some [⟨"a", "1"⟩, ⟨"a", "2"⟩], some [⟨"a", "3"⟩, ⟨"a", "4"⟩]) := by
    subst hpayload
    decide +kernel
  obtain ⟨c, hc, hstate⟩ := Option.map_eq_some_iff.mp hused
  simp only [Prod.mk.injEq] at hstate
  obtain ⟨hnames, hcount, hmove, hposition⟩ := hstate
  obtain ⟨layout, hscan, -, hrow⟩ := naming_course (.ofPayload 2 (eq_ok_of_toOption hc))
  rw [hscan] at hrows
  simp only [Except.toOption, Option.map_some, Option.some.injEq, Prod.mk.injEq] at hrows
  have hfirst : layout.rowCells payload 1 = .ok [⟨"a", "1"⟩, ⟨"a", "2"⟩] :=
    eq_ok_of_toOption hrows.1
  have hsecond : layout.rowCells payload 2 = .ok [⟨"a", "3"⟩, ⟨"a", "4"⟩] :=
    eq_ok_of_toOption hrows.2
  have hlisted : ∀ row cells, 1 ≤ row → row ≤ c.rowCount →
      layout.rowCells payload row = .ok cells → cells.map (·.name) = ["a", "a"] := by
    intro row cells hpos hle hcells
    rw [hcount] at hle
    obtain rfl | rfl : row = 1 ∨ row = 2 := by omega
    · rw [hfirst] at hcells
      cases hcells
      rfl
    · rw [hsecond] at hcells
      cases hcells
      rfl
  obtain ⟨cells, hcells, hvalue⟩ := hrow ["a", "a"] hlisted [] (.absolute 2) 2
    (eq_ok_of_toOption hmove) hposition (by decide) hcount.ge
  rw [hsecond] at hcells
  cases hcells
  exact ⟨c, eq_ok_of_toOption hc, hnames, hvalue "a"⟩

end Cursor

end RemoteSql
