import Mathlib
import RemoteSql.Proofs.Cursor.Opening
import RemoteSql.Proofs.Envelope.Document
import RemoteSql.Proofs.Payload.Agreement
import RemoteSql.Proofs.Stream.Delivery

/-!
# Cursors over a scanned payload

What opening a cursor comes to, once the scan of its payload has told the fields and where the rows
are. The first row is then read, and its cells name the columns.
-/

namespace RemoteSql

namespace Payload

/-- The cells of a row that the scan has found. -/
theorem rowCells_of_rowsAt {payload : Bytes} {layout : Layout} {vs : List Json}
    (h : List.Forall₂ (RowAt payload) layout.rowOffsets vs) {i : Nat} {v : Json}
    (hv : vs[i]? = some v) : layout.rowCells payload (i + 1) = Row.cells (i + 1) v := by
  obtain ⟨hlength, hat⟩ := List.forall₂_iff_get.mp h
  obtain ⟨hi, rfl⟩ := List.getElem?_eq_some_iff.mp hv
  have hoffset : layout.rowOffsets[i]? = some layout.rowOffsets[i] := List.getElem?_eq_getElem _
  have hread := (hat i (hlength ▸ hi) hi).read_eq (i + 1)
  rw [Layout.rowCells, Nat.add_sub_cancel, hoffset]
  exact hread

theorem isGzip_eq {spaces : Bytes} (hs : Json.Spaces spaces) (tail : Bytes) :
    Gzip.isGzip (spaces ++ Ascii.openBrace :: tail) = false := by
  rcases spaces with - | ⟨b, spaces⟩
  · cases tail <;> rfl
  · have hb : b ≠ 0x1F := by
      rintro rfl
      exact absurd (hs 0x1F List.mem_cons_self) (by decide)
    cases spaces <;> simp [Gzip.isGzip, hb]

end Payload

namespace Cursor

variable {payload : Bytes} {layout : Layout}

/-- A scanned payload whose envelope is a success opens with the row count that it declares. -/
theorem ofPayload_of_scan (hscan : Payload.scan payload = .ok layout) {status : HttpStatus}
    (hok : Envelope.statusOf layout.fields = some .ok) :
    ofPayload payload status =
      (Envelope.rowCount ⟨.success layout.fields, status⟩ layout.rowOffsets.length).bind
        (ofLayout payload layout) := by
  rw [ofPayload, hscan]
  simp only [Envelope.ofDocument_of_ok hok]
  rfl

theorem ofResponse_ofBytes {bs : Bytes} (hgzip : Gzip.isGzip bs = false) (status : HttpStatus) :
    ofResponse ⟨.ofBytes bs, status⟩ = ofPayload bs status := by
  have hplain := Source.plain_eq (Source.unfailing_ofBytes bs) (Source.head?_ofBytes bs)
    (by rwa [Source.octets_ofBytes])
  rw [Source.octets_ofBytes] at hplain
  rw [ofResponse, hplain]

theorem exists_ofLayout {n : Nat} (hn : n ≤ layout.rowOffsets.length)
    (hfirst : n ≠ 0 → ∃ cells, layout.rowCells payload 1 = .ok cells) :
    ∃ c, ofLayout payload layout n = .ok c ∧ c.rowCount = n ∧
      c.columnTypes = typesOf layout.fields := by
  unfold ofLayout
  simp only [if_neg (Nat.not_lt.mpr hn)]
  by_cases hzero : n = 0
  · exact ⟨_, if_pos hzero, rfl, rfl⟩
  · obtain ⟨cells, hcells⟩ := hfirst hzero
    rw [if_neg hzero, readRow_eq rfl rfl, hcells]
    exact ⟨_, rfl, rfl, rfl⟩

/-- What opening comes to, given the count of the rows to use: the count may be refused, a cursor
may open with so many rows, and the first of them may be none. -/
inductive Opens (rows : List Json) : Except Error Nat → Except Error Cursor → Prop
  | refused (e : Error) : Opens rows (.error e) (.error e)
  | opened (c : Cursor) : Opens rows (.ok c.rowCount) (.ok c)
  | firstRow {n : Nat} {v : Json} {e : Error} (hn : n ≠ 0) (hv : rows.head? = some v)
      (he : Row.cells 1 v = .error e) : Opens rows (.ok n) (.error e)

theorem Opens.eq_error {rows : List Json} {e : Error} {opening : Except Error Cursor}
    (h : Opens rows (.error e) opening) : opening = .error e := by
  cases h
  rfl

theorem opens_ofLayout {rows : List Json}
    (hat : List.Forall₂ (Payload.RowAt payload) layout.rowOffsets rows) {n : Nat}
    (hn : n ≤ rows.length) : Opens rows (.ok n) (ofLayout payload layout n) := by
  rw [← hat.length_eq] at hn
  by_cases hzero : n = 0
  · obtain ⟨c, hc, rfl, -⟩ :
        ∃ c, ofLayout payload layout n = .ok c ∧ c.rowCount = n ∧ _ :=
      exists_ofLayout hn fun h => absurd hzero h
    rw [hc]
    exact .opened c
  · have hlength := hat.length_eq
    obtain ⟨v, vs, rfl⟩ := List.exists_cons_of_length_pos (l := rows) (by omega)
    have hcells := Payload.rowCells_of_rowsAt hat (i := 0) (v := v) rfl
    cases hv : Row.cells 1 v with
    | ok cells =>
      obtain ⟨c, hc, rfl, -⟩ := exists_ofLayout hn fun _ => ⟨cells, hcells.trans hv⟩
      rw [hc]
      exact .opened c
    | error e =>
      have herror : ofLayout payload layout n = .error e := by
        unfold ofLayout
        simp only [if_neg (Nat.not_lt.mpr hn), if_neg hzero]
        rw [readRow_eq rfl rfl, hcells.trans hv]
        rfl
      rw [herror]
      exact .firstRow hzero rfl hv

end Cursor

end RemoteSql
