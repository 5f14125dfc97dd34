import Mathlib
import RemoteSql.Proofs.Cursor.Course

/-!
# The note of null

All getters share one note of whether the cell read last was null. A look-up that finds a cell makes
the note, even where the getter then refuses the text; nothing else touches it. The note takes the
marker of null in any case of letters, while only the marker itself reads as no value.
-/

namespace RemoteSql.Cursor

/-- How a getter of numbers parses a text without the blanks around it. -/
def Getter.parser : Getter → Option (String → Option Reading)
  | .int => some fun s => (Decimal.readSigned? 32 s).map .whole
  | .long => some fun s => (Decimal.readSigned? 64 s).map .whole
  | .short => some fun s => (Decimal.readSigned? 16 s).map .whole
  | .float => some fun s => (Decimal.single.read? s).map .bits
  | .double => some fun s => (Decimal.double.read? s).map .bits
  | .string | .boolean | .date | .timestamp | .blobReference => none

/-- The text of the cell that a call looks up, if it finds one. -/
def Call.text? : Call → Cursor → Option String
  | .move _, _ => none
  | .read _ col, c => (c.cellText col).toOption
  | .close, _ => none

/-- The texts of the cells that were found in the course of calls, the latest last. -/
def texts : Cursor → List Call → List String
  | _, [] => []
  | c, k :: calls => (k.text? c).toList ++ texts (k.run c) calls

/-- What the calls at a cursor do to the note, and what getters leave alone. -/
structure Notes (c : Cursor) : Prop where
  move : ∀ m, (Move.run m c).2.wasNull = c.wasNull
  close : c.close.wasNull = c.wasNull
  /-- Nothing but the note changes, so the position, the values and the columns stay. -/
  frame : ∀ g col, ∃ b, (Getter.run g c col).2 = { c with wasNull := b }
  closed : ∀ g col resource, (Getter.run g c col).1 = .error (.closed resource) →
    (g.run c col).2 = c
  invalidColumn : ∀ g col fault, (Getter.run g c col).1 = .error (.invalidColumn fault) →
    (g.run c col).2 = c
  dataFormat : ∀ g col fault, (Getter.run g c col).1 = .error (.dataFormat fault) →
    ∃ raw, c.cellText col = .ok raw ∧
      (g.run c col).2.wasNull = Text.eqIgnoreCase raw nullMarker
  fault : ∀ g col e, (Getter.run g c col).1 = .error e →
    e = .closed .cursor ∨ e = .invalidColumn (.unknown col) ∨ ∃ fault, e = .dataFormat fault

/-- Getters read no value, and getters of numbers read zero without parsing, exactly where the text
is the marker itself. -/
structure ReadsMarker (c : Cursor) : Prop where
  string : ∀ col, (c.getString col).1 = .ok none ↔ c.cellText col = .ok nullMarker
  date : ∀ col, (c.getDate col).1 = .ok none ↔ c.cellText col = .ok nullMarker
  timestamp : ∀ col, (c.getTimestamp col).1 = .ok none ↔ c.cellText col = .ok nullMarker
  blobReference : ∀ col, (c.getBlobReference col).1 = .ok none ↔ c.cellText col = .ok nullMarker
  number : ∀ g parse, Getter.parser g = some parse → ∀ col raw, c.cellText col = .ok raw →
    ((∃ v, (g.run c col).1 = .ok v ∧ parse (Text.trim raw) ≠ some v) ↔ raw = nullMarker) ∧
    (raw = nullMarker → (g.run c col).1 = .ok g.absent)

variable {c : Cursor} {col : Column} {raw : String} {α : Type}

theorem orNotA_failsOnly (type : CellType) (col : Column) (raw : String) (a : Option α) :
    FailsOnly (fun e => ∃ fault, e = .dataFormat fault) (orNotA type col raw a) := by
  cases a with
  | none => exact .error ⟨_, rfl⟩
  | some a => exact .ok a

/-- A text that its getter refuses is a fault of the data. -/
theorem Getter.judge_failsOnly (g : Getter) (col : Column) (raw : String) :
    FailsOnly (fun e => ∃ fault, e = .dataFormat fault) (g.judge col raw) := by
  cases g with
  | string | boolean | blobReference => exact .ok _
  | int | long | short | float | double =>
    dsimp only [judge]
    exact (orNotA_failsOnly _ _ _ _).map _
  | date | timestamp =>
    dsimp only [judge]
    split
    · exact (orNotA_failsOnly _ _ _ _).map _
    · exact (orNotA_failsOnly _ _ _ _).map _

theorem Getter.notes_text (g : Getter) (h : c.cellText col = .ok raw) :
    (g.run c col).2.wasNull = Text.eqIgnoreCase raw nullMarker := by
  rw [g.run_of_text h, noted]

/-- A getter fails where its look-up does, and then with that error, or else at the text. -/
theorem Getter.run_error_cases (g : Getter) {e : Error} (h : (g.run c col).1 = .error e) :
    (c.cellText col = .error e ∧ (g.run c col).2 = c) ∨
    ∃ raw, c.cellText col = .ok raw ∧ ∃ fault, e = .dataFormat fault := by
  cases htext : c.cellText col with
  | error e' =>
    rw [g.run_of_error htext] at h ⊢
    cases h
    exact Or.inl ⟨rfl, rfl⟩
  | ok raw =>
    rw [g.run_of_text htext] at h
    refine Or.inr ⟨raw, rfl, ?_⟩
    dsimp only at h
    split at h
    · cases h
    · exact g.judge_failsOnly col raw e h

theorem goTo_wasNull (c : Cursor) (row : Nat) : (c.goTo row).2.wasNull = c.wasNull := by
  rcases goTo_cases c row with ⟨cells, -, hgo⟩ | ⟨e, -, hgo⟩ <;> rw [hgo]

theorem Move.run_wasNull (m : Move) (hp : c.position ≤ c.rowCount + 1) :
    (m.run c).2.wasNull = c.wasNull := by
  rcases m.run_cases hp with ⟨-, -, hrun⟩ | ⟨-, -, -, hrun⟩ | ⟨p, -, -, -, -, hrun⟩ | ⟨row, -, hrun⟩
  · rw [hrun]
  · rw [hrun]
  · rw [hrun, rest]
  · rw [hrun, goTo_wasNull]

theorem notes (hp : c.position ≤ c.rowCount + 1) : Notes c where
  move m := m.run_wasNull hp
  close := rfl
  frame g col := g.run_snd c col
  closed g col resource h := by
    rcases g.run_error_cases h with ⟨-, hsame⟩ | ⟨raw, -, fault, hfault⟩
    · exact hsame
    · cases hfault
  invalidColumn g col fault h := by
    rcases g.run_error_cases h with ⟨-, hsame⟩ | ⟨raw, -, fault, hfault⟩
    · exact hsame
    · cases hfault
  dataFormat g col fault h := by
    rcases g.run_error_cases h with ⟨htext, -⟩ | ⟨raw, htext, -⟩
    · rcases cellText_error_cases htext with ⟨-, he⟩ | ⟨-, he⟩ <;> cases he
    · exact ⟨raw, htext, g.notes_text htext⟩
  fault g col e h := by
    rcases g.run_error_cases h with ⟨htext, -⟩ | ⟨raw, -, hfault⟩
    · rcases cellText_error_cases htext with ⟨-, he⟩ | ⟨-, he⟩
      · exact Or.inl he
      · exact Or.inr (Or.inl he)
    · exact Or.inr (Or.inr hfault)

/-- A getter whose rule for texts never gives no value gives none for the marker alone. -/
theorem readWith_eq_none_iff {read : String → Except Error (Option α)}
    (hread : ∀ raw, read raw ≠ .ok none) :
    (c.readWith col none read).1 = .ok none ↔ c.cellText col = .ok nullMarker := by
  rw [readWith_fst]
  cases c.cellText col with
  | error e => simp [Except.bind]
  | ok raw => by_cases hnull : raw = nullMarker <;> simp [Except.bind, hnull, hread]

theorem map_some_ne (x : Except Error α) : x.map some ≠ .ok none := by
  cases x <;> simp [Except.map]

theorem access_eq_none_iff : (c.access col).1 = .ok none ↔ c.cellText col = .ok nullMarker := by
  rw [access_fst]
  cases c.cellText col <;> simp [Except.map]

theorem map_orNotA_eq_ok_iff {type : CellType} {kind : α → Reading} {a : Option α} {v : Reading} :
    (orNotA type col raw a).map kind = .ok v ↔ a.map kind = some v := by
  cases a <;> simp [orNotA, Except.map]

theorem Getter.judge_eq_ok_iff {g : Getter} {parse : String → Option Reading}
    (h : g.parser = some parse) {v : Reading} :
    g.judge col raw = .ok v ↔ parse (Text.trim raw) = some v := by
  cases g with
  | int | long | short | float | double =>
    cases h
    dsimp only [judge]
    exact map_orNotA_eq_ok_iff
  | string | boolean | date | timestamp | blobReference => cases h

/-- The marker itself is no number. -/
theorem Getter.parser_nullMarker {g : Getter} {parse : String → Option Reading}
    (h : g.parser = some parse) : parse (Text.trim nullMarker) = none := by
  cases g with
  | int | long | short | float | double =>
    cases h
    decide
  | string | boolean | date | timestamp | blobReference => cases h

theorem readsMarker (c : Cursor) : ReadsMarker c where
  string _ := access_eq_none_iff
  blobReference _ := access_eq_none_iff
  date col := by
    refine readWith_eq_none_iff fun raw => ?_
    dsimp only
    split
    · rw [← map_map]
      exact map_some_ne _
    · exact map_some_ne _
  timestamp col := by
    refine readWith_eq_none_iff fun raw => ?_
    dsimp only
    split <;> exact map_some_ne _
  number g parse hparse col raw htext := by
    have hrun := congrArg Prod.fst (g.run_of_text htext)
    dsimp only at hrun
    constructor
    · constructor
      · rintro ⟨v, hv, hne⟩
        by_contra hnull
        rw [hrun, if_neg hnull] at hv
        exact hne ((Getter.judge_eq_ok_iff hparse).mp hv)
      · rintro rfl
        refine ⟨g.absent, hrun.trans (if_pos rfl), ?_⟩
        rw [Getter.parser_nullMarker hparse]
        exact (Option.some_ne_none _).symm
    · intro hnull
      exact hrun.trans (if_pos hnull)

/-- One call makes the note anew if it finds a cell, and leaves it otherwise. -/
theorem Call.run_wasNull (k : Call) (hp : c.position ≤ c.rowCount + 1) :
    (k.run c).wasNull =
      ((k.text? c).map fun raw => Text.eqIgnoreCase raw nullMarker).getD c.wasNull := by
  cases k with
  | move m => exact m.run_wasNull hp
  | close => rfl
  | read g col =>
    rw [run, text?]
    cases htext : c.cellText col with
    | error e => rw [g.run_of_error htext]; rfl
    | ok raw => exact g.notes_text htext

theorem course_cons (c : Cursor) (k : Call) (calls : List Call) :
    (course c (k :: calls)).cursor = (course (k.run c) calls).cursor := by
  induction calls using List.reverseRecOn with
  | nil => rfl
  | append_singleton calls k' ih =>
    rw [← List.cons_append, course_concat, course_concat]
    exact congrArg k'.run ih

variable {payload : Bytes} {layout : Layout} {n : Nat} {s : Course}

/-- Over a course of calls the note is that of the latest text, or the one from before. -/
theorem Consistent.wasNull_course (h : Consistent payload layout n s) (calls : List Call) :
    (Cursor.course s.cursor calls).cursor.wasNull =
      ((texts s.cursor calls).getLast?.map fun raw => Text.eqIgnoreCase raw nullMarker).getD
        s.cursor.wasNull := by
  induction calls generalizing s with
  | nil => rfl
  | cons k calls ih =>
    have hstep := k.run_wasNull h.position_le_rowCount
    have hrest := ih (h.call k)
    rw [Course.call] at hrest
    rw [course_cons, hrest, hstep, texts, List.getLast?_append]
    -- The latest text is that of the later calls, unless they found none.
    cases (texts (k.run s.cursor) calls).getLast? with
    | some raw => rfl
    | none => cases k.text? s.cursor <;> rfl

/-- A look-up finds a text exactly if the current row has been read and has a cell of that text at
the place of the column. -/
theorem Consistent.cellText_eq_ok_iff (h : Consistent payload layout n s) :
    s.cursor.cellText col = .ok raw ↔
      s.cursor.isClosed = false ∧ 1 ≤ s.cursor.position ∧ s.cursor.position ≤ n ∧
        ∃ cells i cell, layout.rowCells payload s.cursor.position = .ok cells ∧
          s.cursor.values = cells.map (·.raw) ∧ s.cursor.place? col = some i ∧
          cells[i]? = some cell ∧ cell.raw = raw := by
  rw [Cursor.cellText_eq_ok_iff]
  constructor
  · rintro ⟨hopen, i, hplace, hvalue⟩
    have hne : s.cursor.values ≠ [] := by
      rintro hnil
      simp [hnil] at hvalue
    have hend := mt h.values_of_end hne
    have hle := h.position_le
    obtain ⟨cells, hcells, hvalues | ⟨hnil, -⟩⟩ :=
      h.values_of_row hopen (by omega) (by omega)
    · rw [hvalues, List.getElem?_map] at hvalue
      obtain ⟨cell, hcell, hraw⟩ := Option.map_eq_some_iff.mp hvalue
      exact ⟨hopen, by omega, by omega, cells, i, cell, hcells, hvalues, hplace, hcell, hraw⟩
    · exact absurd hnil hne
  · rintro ⟨hopen, -, -, cells, i, cell, -, hvalues, hplace, hcell, rfl⟩
    refine ⟨hopen, i, hplace, ?_⟩
    rw [hvalues, List.getElem?_map, hcell]
    rfl

/-- In the course of whatever calls, the note is that of the latest cell that was found, and before
the first it is that of no null. Calls that find no cell leave it, a refused text is noted, and
getters change nothing else. The marker is read as no value, and by getters of numbers as zero. -/
theorem nullNote_course (h : Opened payload c) :
    ∃ layout, Payload.scan payload = .ok layout ∧ ∀ calls,
      ((course c calls).cursor.wasNull = true ↔
        ∃ raw, (texts c calls).getLast? = some raw ∧ Text.eqIgnoreCase raw nullMarker = true) ∧
      (∀ col raw, (course c calls).cursor.cellText col = .ok raw ↔
        (course c calls).cursor.isClosed = false ∧ 1 ≤ (course c calls).cursor.position ∧
          (course c calls).cursor.position ≤ c.rowCount ∧
          ∃ cells i cell, layout.rowCells payload (course c calls).cursor.position = .ok cells ∧
            (course c calls).cursor.values = cells.map (·.raw) ∧
            (course c calls).cursor.place? col = some i ∧ cells[i]? = some cell ∧
            cell.raw = raw) ∧
      Notes (course c calls).cursor ∧ ReadsMarker (course c calls).cursor := by
  obtain ⟨layout, hscan, hfresh⟩ := h.exists_layout
  refine ⟨layout, hscan, fun calls => ?_⟩
  have hstart := hfresh.consistent
  have hused := hstart.course calls
  refine ⟨?_, fun col raw => hused.cellText_eq_ok_iff, notes hused.position_le_rowCount,
    readsMarker _⟩
  rw [hstart.wasNull_course calls, h.wasNull_eq]
  cases (texts c calls).getLast? <;> simp

/-- A date that is refused is noted, and neither a column that is missing nor closing changes it. -/
theorem nullNote_course_refused :
    ∃ c : Cursor, openPayload (Utf8.encode
        "\x7b\"status\":\"OK\",\"query_rows\":[[\x7b\"a\":\"null\"\x7d,\x7b\"b\":7\x7d]]\x7d") 1 =
          .ok c ∧
      texts c [.move .next, .read .long (.index 2), .read .date (.name "a"),
        .read .string (.index 3), .move .afterLast, .close] = ["7", "null"] ∧
      (course c [.move .next, .read .long (.index 2), .read .date (.name "a"),
        .read .string (.index 3), .move .afterLast, .close]).cursor.wasNull = true := by
  have htexts : (openPayload (Utf8.encode
      "\x7b\"status\":\"OK\",\"query_rows\":[[\x7b\"a\":\"null\"\x7d,\x7b\"b\":7\x7d]]\x7d")
      1).toOption.map (fun c => texts c [.move .next, .read .long (.index 2),
        .read .date (.name "a"), .read .string (.index 3), .move .afterLast, .close]) =
      some ["7", "null"] := by decide +kernel
  obtain ⟨c, hc, hcells⟩ := Option.map_eq_some_iff.mp htexts
  obtain ⟨layout, -, hall⟩ := nullNote_course (.ofPayload 1 (eq_ok_of_toOption hc))
  refine ⟨c, eq_ok_of_toOption hc, hcells, (hall _).1.mpr ⟨"null", ?_, by decide⟩⟩
  rw [hcells]
  rfl

end RemoteSql.Cursor
