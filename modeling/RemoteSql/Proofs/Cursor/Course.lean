import Mathlib
import RemoteSql.Proofs.Cursor.Getter
import RemoteSql.Proofs.Cursor.Opening

/-!
# What holds of a cursor in the course of its use

Moves, getters and closing may follow one another in any order, over rows that can be read and rows
that cannot. The position stays among the rows and the two ends, and the values are those of the
current row or none at all.
-/

namespace RemoteSql.Cursor

inductive Call
  | move (m : Move)
  | read (g : Getter) (col : Column)
  | close
  deriving DecidableEq, Repr

def Call.run : Call → Cursor → Cursor
  | .move m, c => (m.run c).2
  | .read g col, c => (g.run c col).2
  | .close, c => c.close

/-- Whether a call could read the row that it has to read, if it has to read one. -/
def Call.load? : Call → Cursor → Option Bool
  | .move m, c => (m.row? c).map fun _ => (m.run c).1.isOk
  | .read _ _, _ => none
  | .close, _ => none

structure Course where
  cursor : Cursor
  /-- Whether the latest call that had to read a row could read it. -/
  latestLoad : Option Bool := none

def Course.call (s : Course) (k : Call) : Course where
  cursor := k.run s.cursor
  latestLoad := (k.load? s.cursor).or s.latestLoad

def course (c : Cursor) (calls : List Call) : Course := calls.foldl Course.call ⟨c, none⟩

theorem course_concat (c : Cursor) (calls : List Call) (k : Call) :
    course c (calls ++ [k]) = (course c calls).call k := by
  rw [course, List.foldl_append]
  rfl

/-- What holds of a cursor over a scanned payload of which `n` rows are used. -/
structure Consistent (payload : Bytes) (layout : Layout) (n : Nat) (s : Course) : Prop where
  rowCount_eq : s.cursor.rowCount = n
  rowCount_le : s.cursor.isClosed = false → n ≤ s.cursor.rowOffsets.size
  position_le : s.cursor.position ≤ n + 1
  payload_eq : s.cursor.isClosed = false → s.cursor.payload = some payload
  rowOffsets_eq : s.cursor.isClosed = false → s.cursor.rowOffsets = layout.rowOffsets.toArray
  values_of_closed : s.cursor.isClosed = true → s.cursor.values = []
  values_of_end : s.cursor.position = 0 ∨ s.cursor.position = n + 1 → s.cursor.values = []
  values_of_row : s.cursor.isClosed = false → 1 ≤ s.cursor.position → s.cursor.position ≤ n →
    ∃ cells, layout.rowCells payload s.cursor.position = .ok cells ∧
      (s.cursor.values = cells.map (·.raw) ∨
        s.cursor.values = [] ∧ s.latestLoad = some false)
  columnNames_eq : 1 ≤ n → ∀ cells, layout.rowCells payload 1 = .ok cells → cells ≠ [] →
    s.cursor.columnNames = cells.map (·.name)
  columnNames_nil : n = 0 → s.cursor.columnNames = []

variable {payload : Bytes} {layout : Layout} {n : Nat} {s : Course} {c : Cursor}

theorem Fresh.consistent (h : Fresh payload layout c) :
    Consistent payload layout c.rowCount ⟨c, none⟩ where
  rowCount_eq := rfl
  rowCount_le _ := by simpa [h.rowOffsets_eq] using h.rowCount_le
  position_le := by simp [h.position_eq]
  payload_eq _ := h.payload_eq
  rowOffsets_eq _ := h.rowOffsets_eq
  values_of_closed _ := h.values_eq
  values_of_end _ := h.values_eq
  values_of_row _ hpos := absurd hpos (by simp [h.position_eq])
  columnNames_eq hn cells hcells _ := by
    obtain ⟨cells', hcells', hnames⟩ := h.columnNames_eq hn
    rw [hcells] at hcells'
    cases hcells'
    exact hnames
  columnNames_nil := h.columnNames_nil

namespace Consistent

theorem of_wasNull (h : Consistent payload layout n s) (b : Bool) :
    Consistent payload layout n ⟨{ s.cursor with wasNull := b }, s.latestLoad⟩ := by
  obtain ⟨h₁, h₂, h₃, h₄, h₅, h₆, h₇, h₈, h₉, h₁₀⟩ := h
  exact ⟨h₁, h₂, h₃, h₄, h₅, h₆, h₇, h₈, h₉, h₁₀⟩

theorem of_close (h : Consistent payload layout n s) :
    Consistent payload layout n ⟨s.cursor.close, s.latestLoad⟩ where
  rowCount_eq := h.rowCount_eq
  rowCount_le hopen := by cases hopen
  position_le := h.position_le
  payload_eq hopen := by cases hopen
  rowOffsets_eq hopen := by cases hopen
  values_of_closed _ := rfl
  values_of_end _ := rfl
  values_of_row hopen := by cases hopen
  columnNames_eq := h.columnNames_eq
  columnNames_nil := h.columnNames_nil

theorem of_rest (h : Consistent payload layout n s) {p : Nat} (hp : p = 0 ∨ p = n + 1) :
    Consistent payload layout n ⟨s.cursor.rest p, s.latestLoad⟩ where
  rowCount_eq := h.rowCount_eq
  rowCount_le := h.rowCount_le
  position_le := by
    change p ≤ n + 1
    omega
  payload_eq := h.payload_eq
  rowOffsets_eq := h.rowOffsets_eq
  values_of_closed _ := rfl
  values_of_end _ := rfl
  values_of_row _ hpos hle := by
    change 1 ≤ p at hpos
    change p ≤ n at hle
    omega
  columnNames_eq := h.columnNames_eq
  columnNames_nil := h.columnNames_nil

/-- A row that cannot be read leaves the position, whose values are forgotten. -/
theorem of_failure (h : Consistent payload layout n s) :
    Consistent payload layout n ⟨{ s.cursor with values := [] }, some false⟩ where
  rowCount_eq := h.rowCount_eq
  rowCount_le := h.rowCount_le
  position_le := h.position_le
  payload_eq := h.payload_eq
  rowOffsets_eq := h.rowOffsets_eq
  values_of_closed _ := rfl
  values_of_end _ := rfl
  values_of_row hopen hpos hle := by
    obtain ⟨cells, hcells, -⟩ := h.values_of_row hopen hpos hle
    exact ⟨cells, hcells, Or.inr ⟨rfl, rfl⟩⟩
  columnNames_eq := h.columnNames_eq
  columnNames_nil := h.columnNames_nil

theorem readRow_eq (h : Consistent payload layout n s) (hopen : s.cursor.isClosed = false)
    (row : Nat) : s.cursor.readRow row = layout.rowCells payload row :=
  Cursor.readRow_eq (h.payload_eq hopen) (h.rowOffsets_eq hopen) row

/-- A row that can be read gives its values, and names the columns only if none are named. -/
theorem of_success (h : Consistent payload layout n s) (hopen : s.cursor.isClosed = false)
    {row : Nat} {cells : List Cell} (hpos : 1 ≤ row) (hle : row ≤ n)
    (hcells : layout.rowCells payload row = .ok cells) :
    Consistent payload layout n ⟨{ s.cursor with
      columnNames :=
        if s.cursor.columnNames.isEmpty then cells.map (·.name) else s.cursor.columnNames
      values := cells.map (·.raw)
      position := row }, some true⟩ where
  rowCount_eq := h.rowCount_eq
  rowCount_le := h.rowCount_le
  position_le := Nat.le_succ_of_le hle
  payload_eq := h.payload_eq
  rowOffsets_eq := h.rowOffsets_eq
  values_of_closed hclosed := by
    change s.cursor.isClosed = true at hclosed
    rw [hopen] at hclosed
    cases hclosed
  values_of_end hend := by
    change row = 0 ∨ row = n + 1 at hend
    omega
  values_of_row _ _ _ := ⟨cells, hcells, Or.inl rfl⟩
  columnNames_eq hn first hfirst hne := by
    have hnames := h.columnNames_eq hn first hfirst hne
    have hsome : s.cursor.columnNames.isEmpty = false := by
      rw [hnames]
      simpa using hne
    simpa [hsome] using hnames
  columnNames_nil hn := by omega

theorem position_le_rowCount (h : Consistent payload layout n s) :
    s.cursor.position ≤ s.cursor.rowCount + 1 := by
  rw [h.rowCount_eq]
  exact h.position_le

/-- Whatever the move, and whether or not its row can be read. -/
theorem move (h : Consistent payload layout n s) (m : Move) :
    Consistent payload layout n (s.call (.move m)) := by
  have hcases := m.run_cases h.position_le_rowCount
  obtain ⟨-, hrow, hrun⟩ | ⟨-, hrow, -, hrun⟩ | ⟨p, -, hrow, -, hend, hrun⟩ | ⟨row, hrow, hrun⟩ :=
    hcases
  -- Only a row that is gone to changes more than the position.
  · simpa [Course.call, Call.run, Call.load?, hrow, hrun] using h
  · simpa [Course.call, Call.run, Call.load?, hrow, hrun] using h
  · rw [h.rowCount_eq] at hend
    simpa [Course.call, Call.run, Call.load?, hrow, hrun] using h.of_rest hend
  · obtain ⟨hopen, -, hpos, hle⟩ := Move.row?_eq_some_iff.mp hrow
    rw [h.rowCount_eq] at hle
    rcases goTo_cases s.cursor row with ⟨cells, hread, hgo⟩ | ⟨e, -, hgo⟩
    · rw [h.readRow_eq hopen] at hread
      have hload : (Call.move m).load? s.cursor = some true := by
        simp [Call.load?, hrow, hrun, hgo, Except.isOk, Except.toBool]
      simpa [Course.call, Call.run, hload, hrun, hgo] using h.of_success hopen hpos hle hread
    · have hload : (Call.move m).load? s.cursor = some false := by
        simp [Call.load?, hrow, hrun, hgo, Except.isOk, Except.toBool]
      simpa [Course.call, Call.run, hload, hrun, hgo] using h.of_failure

theorem call (h : Consistent payload layout n s) (k : Call) :
    Consistent payload layout n (s.call k) := by
  cases k with
  | move m => exact h.move m
  | read g col =>
    obtain ⟨b, hb⟩ := g.run_snd s.cursor col
    simpa [Course.call, Call.run, Call.load?, hb] using h.of_wasNull b
  | close => exact h.of_close

theorem course (h : Consistent payload layout n ⟨c, none⟩) (calls : List Call) :
    Consistent payload layout n (course c calls) := by
  induction calls using List.reverseRecOn with
  | nil => exact h
  | append_singleton calls k ih =>
    rw [course_concat]
    exact ih.call k

theorem goTo_eq (h : Consistent payload layout n s) (hopen : s.cursor.isClosed = false) {row : Nat}
    {cells : List Cell} (hcells : layout.rowCells payload row = .ok cells) :
    ∃ c', s.cursor.goTo row = (.ok true, c') ∧ c'.isClosed = false ∧ c'.position = row ∧
      c'.values = cells.map (·.raw) := by
  rw [← h.readRow_eq hopen] at hcells
  rcases goTo_cases s.cursor row with ⟨cells', hread, hgo⟩ | ⟨e, hread, -⟩
  · rw [hcells] at hread
    cases hread
    exact ⟨_, hgo, hopen, rfl, rfl⟩
  · rw [hcells] at hread
    cases hread

/-- A move that has reached a row has read it. -/
theorem row?_of_reached (h : Consistent payload layout n s) {m : Move} {p : Nat}
    (hok : (m.run s.cursor).1 = .ok true) (hp : (m.run s.cursor).2.position = p) (hpos : 1 ≤ p)
    (hle : p ≤ n) :
    s.cursor.isClosed = false ∧ m.row? s.cursor = some p ∧ m.run s.cursor = s.cursor.goTo p ∧
      ∃ cells, layout.rowCells payload p = .ok cells := by
  have hcases := m.run_cases h.position_le_rowCount
  rcases hcases with ⟨-, -, hrun⟩ | ⟨-, -, -, hrun⟩ | ⟨q, -, -, -, hend, hrun⟩ | ⟨row, hrow, hrun⟩
  · rw [hrun] at hok
    cases hok
  · rw [hrun] at hok
    cases hok
  · rw [hrun] at hp
    rw [h.rowCount_eq] at hend
    change q = p at hp
    omega
  · obtain ⟨hopen, -⟩ := Move.row?_eq_some_iff.mp hrow
    rcases goTo_cases s.cursor row with ⟨cells, hread, hgo⟩ | ⟨e, -, hgo⟩
    · obtain rfl : row = p := by simpa [hrun, hgo] using hp
      rw [h.readRow_eq hopen] at hread
      exact ⟨hopen, hrow, hrun, cells, hread⟩
    · rw [hrun, hgo] at hok
      cases hok

end Consistent

/-- No look-up of a cursor is out of range: the rows that its moves read have been found, and a cell
that is given stands among the values. Moves that read no row change nothing or come to rest. -/
structure InRange (c : Cursor) : Prop where
  row : ∀ m row, Move.row? m c = some row →
    m.run c = c.goTo row ∧ 1 ≤ row ∧ row - 1 < c.rowOffsets.size
  noRow : ∀ m, Move.row? m c = none → (m.run c).2 = c ∨ ∃ p, (m.run c).2 = c.rest p
  value : ∀ col raw, c.cellText col = .ok raw →
    ∃ i, c.place? col = some i ∧ c.values[i]? = some raw

/-- A look-up finds what stands among the values at the place of the column. -/
theorem cellText_eq_ok_iff {col : Column} {raw : String} :
    c.cellText col = .ok raw ↔
      c.isClosed = false ∧ ∃ i, c.place? col = some i ∧ c.values[i]? = some raw := by
  unfold cellText
  cases hc : c.isClosed with
  | true => simp [ensureOpen_of_closed hc]
  | false =>
    rw [ensureOpen_of_open hc, ← Option.bind_eq_some_iff]
    dsimp only
    cases (c.place? col).bind (c.values[·]?) <;> simp

theorem cellText_eq_error {col : Column} (hopen : c.isClosed = false)
    (hnone : ∀ i, c.place? col = some i → c.values[i]? = none) :
    c.cellText col = .error (.invalidColumn (.unknown col)) := by
  have hfound : (c.place? col).bind (c.values[·]?) = none := Option.bind_eq_none_iff.mpr hnone
  rw [cellText, ensureOpen_of_open hopen]
  dsimp only
  rw [hfound]

theorem cellText_of_closed {col : Column} (hclosed : c.isClosed = true) :
    c.cellText col = .error (.closed .cursor) := by
  rw [cellText, ensureOpen_of_closed hclosed]

/-- A look-up fails where the cursor is closed or has no value at the place. -/
theorem cellText_error_cases {col : Column} {e : Error} (h : c.cellText col = .error e) :
    c.isClosed = true ∧ e = .closed .cursor ∨
      c.isClosed = false ∧ e = .invalidColumn (.unknown col) := by
  cases hc : c.isClosed with
  | true =>
    rw [cellText_of_closed hc] at h
    cases h
    exact Or.inl ⟨rfl, rfl⟩
  | false =>
    have hnone : ∀ i, c.place? col = some i → c.values[i]? = none := by
      intro i hi
      by_contra hvalue
      obtain ⟨raw, hraw⟩ := Option.ne_none_iff_exists'.mp hvalue
      rw [cellText_eq_ok_iff.mpr ⟨hc, i, hi, hraw⟩] at h
      cases h
    rw [cellText_eq_error hc hnone] at h
    cases h
    exact Or.inr ⟨rfl, rfl⟩

theorem Consistent.inRange (h : Consistent payload layout n s) : InRange s.cursor where
  row m row hrow := by
    obtain ⟨hopen, -, hpos, hle⟩ := Move.row?_eq_some_iff.mp hrow
    have hcases := m.run_cases h.position_le_rowCount
    rcases hcases with ⟨-, hnone, -⟩ | ⟨-, hnone, -⟩ | ⟨p, -, hnone, -⟩ | ⟨row', hrow', hrun⟩
    all_goals try rw [hrow] at hnone; cases hnone
    rw [hrow] at hrow'
    cases hrow'
    rw [h.rowCount_eq] at hle
    have hsize := h.rowCount_le hopen
    exact ⟨hrun, hpos, by omega⟩
  noRow m hnone := by
    have hcases := m.run_cases h.position_le_rowCount
    rcases hcases with ⟨-, -, hrun⟩ | ⟨-, -, -, hrun⟩ | ⟨p, -, -, -, -, hrun⟩ | ⟨row, hrow, -⟩
    · exact Or.inl (by rw [hrun])
    · exact Or.inl (by rw [hrun])
    · exact Or.inr ⟨p, by rw [hrun]⟩
    · rw [hnone] at hrow
      cases hrow
  value _ _ h := (cellText_eq_ok_iff.mp h).2

/-- Open cursors with the same values have the same cells, by name if they name their columns
alike. -/
theorem cellText_congr {c c' : Cursor} {col : Column} (hopen : c.isClosed = false)
    (hopen' : c'.isClosed = false) (hvalues : c.values = c'.values)
    (hnames : (∃ i, col = .index i) ∨ c.columnNames = c'.columnNames) :
    c.cellText col = c'.cellText col := by
  have hplace : c.place? col = c'.place? col := by
    rcases hnames with ⟨i, rfl⟩ | hnames
    · cases i <;> rfl
    · cases col with
      | index i => cases i <;> rfl
      | name name => rw [place?, place?, hnames]
  rw [cellText, cellText, ensureOpen_of_open hopen, ensureOpen_of_open hopen', hplace, hvalues]

/-- Whatever calls are made on a cursor, the position stays among the rows and the two ends, no
look-up is out of range, and the values are those of the current row or, after a failure, none. So
what the getters return at a row does not depend on how the row was reached, except that columns
are known by name only if the first row has cells. -/
theorem course_consistent (h : Opened payload c) :
    ∃ layout, Payload.scan payload = .ok layout ∧ ∀ calls,
      Consistent payload layout c.rowCount (course c calls) ∧
      InRange (course c calls).cursor ∧
      ∀ m p, (Move.run m (course c calls).cursor).1 = .ok true →
        (m.run (course c calls).cursor).2.position = p → 1 ≤ p → p ≤ c.rowCount →
        (c.absolute p).1 = .ok true ∧ (c.absolute p).2.position = p ∧
        ∀ g col,
          ((∃ i, col = .index i) ∨ ∃ cells, layout.rowCells payload 1 = .ok cells ∧ cells ≠ []) →
          (Getter.run g (m.run (course c calls).cursor).2 col).1 =
            (g.run (c.absolute p).2 col).1 := by
  obtain ⟨layout, hscan, hfresh⟩ := h.exists_layout
  refine ⟨layout, hscan, ?_⟩
  intro calls
  have hused := hfresh.consistent.course calls
  refine ⟨hused, hused.inRange, ?_⟩
  intro m p hok hp hpos hle
  obtain ⟨hopen, -, hrun, cells, hcells⟩ := hused.row?_of_reached hok hp hpos hle
  obtain ⟨c₁, hgo₁, hopen₁, -, hvalues₁⟩ := hused.goTo_eq hopen hcells
  -- The cursor as it was opened reads the same row.
  have hstart := hfresh.consistent
  obtain ⟨c₂, hgo₂, hopen₂, hpos₂, hvalues₂⟩ := hstart.goTo_eq hfresh.isClosed_eq hcells
  have habsolute : c.absolute p = (.ok true, c₂) := by
    rw [absolute_eq hfresh.isClosed_eq, jump_natCast hle]
    exact (enter_of_row hpos hle).trans hgo₂
  have hthere : (m.run (course c calls).cursor).2 = c₁ := by rw [hrun, hgo₁]
  refine ⟨by rw [habsolute], by rw [habsolute]; exact hpos₂, ?_⟩
  intro g col hcol
  rw [habsolute, hthere]
  apply g.run_congr
  apply cellText_congr hopen₁ hopen₂ (hvalues₁.trans hvalues₂.symm)
  apply hcol.imp_right
  rintro ⟨first, hfirst, hne⟩
  have hn : 1 ≤ c.rowCount := hpos.trans hle
  have hnames₁ : (m.run (course c calls).cursor).2.columnNames = first.map (·.name) :=
    (hused.move m).columnNames_eq hn first hfirst hne
  have hnames₂ : (c.absolute p).2.columnNames = first.map (·.name) :=
    (hstart.move (.absolute p)).columnNames_eq hn first hfirst hne
  rw [hthere] at hnames₁
  rw [habsolute] at hnames₂
  exact hnames₁.trans hnames₂.symm

theorem course_consistent_bad_row :
    ∃ c layout,
      Opened (Utf8.encode "\x7b\"status\":\"OK\",\"query_rows\":[[\x7b\"a\":7\x7d],3]\x7d") c ∧
      c.columnNames = ["a"] ∧
      Consistent (Utf8.encode "\x7b\"status\":\"OK\",\"query_rows\":[[\x7b\"a\":7\x7d],3]\x7d")
        layout c.rowCount
        (course c [.move .next, .move .next, .read .long (.index 1), .move .first, .close]) := by
  have hnames : (openPayload
      (Utf8.encode "\x7b\"status\":\"OK\",\"query_rows\":[[\x7b\"a\":7\x7d],3]\x7d")
      2).toOption.map (·.columnNames) = some ["a"] := by decide +kernel
  obtain ⟨c, hc, hname⟩ := Option.map_eq_some_iff.mp hnames
  have hopened : Opened _ c := .ofPayload 2 (eq_ok_of_toOption hc)
  obtain ⟨layout, -, hall⟩ := course_consistent hopened
  exact ⟨c, layout, hopened, hname, (hall _).1⟩

end RemoteSql.Cursor
