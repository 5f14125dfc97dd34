import Mathlib
import RemoteSql.Cursor.Value
import RemoteSql.Proofs.Fallible

/-!
# Getters

Every getter looks up one cell and judges its text by a rule of its own. What it returns depends on
the text that is found and on nothing else of the cursor, of which it changes only the note of
whether the cell was null.
-/

namespace RemoteSql.Cursor

inductive Getter
  | string
  | int
  | long
  | short
  | float
  | double
  | boolean
  | date
  | timestamp
  | blobReference
  deriving DecidableEq, Repr

inductive Reading
  | text (s : Option String)
  | whole (n : Int)
  | bits (n : Nat)
  | truth (b : Bool)
  | date (d : Option Date)
  | timestamp (t : Option Timestamp)
  deriving DecidableEq, Repr

/-- A result as one of the several kinds. -/
def asReading {α : Type} (kind : α → Reading) (r : Except Error α × Cursor) :
    Except Error Reading × Cursor :=
  (r.1.map kind, r.2)

def Getter.run (g : Getter) (c : Cursor) (col : Column) : Except Error Reading × Cursor :=
  match g with
  | .string => asReading .text (c.getString col)
  | .int => asReading .whole (c.getInt col)
  | .long => asReading .whole (c.getLong col)
  | .short => asReading .whole (c.getShort col)
  | .float => asReading .bits (c.getFloat col)
  | .double => asReading .bits (c.getDouble col)
  | .boolean => asReading .truth (c.getBoolean col)
  | .date => asReading .date (c.getDate col)
  | .timestamp => asReading .timestamp (c.getTimestamp col)
  | .blobReference => asReading .text (c.getBlobReference col)

/-- What a getter reads of null. -/
def Getter.absent : Getter → Reading
  | .string | .blobReference => .text none
  | .int | .long | .short => .whole 0
  | .float | .double => .bits 0
  | .boolean => .truth false
  | .date => .date none
  | .timestamp => .timestamp none

/-- What a getter makes of a text that is not null, which it has found in a column. -/
def Getter.judge (col : Column) (raw : String) : Getter → Except Error Reading
  | .string | .blobReference => .ok (.text (some raw))
  | .int => (orNotA .int col raw (Decimal.readSigned? 32 (Text.trim raw))).map .whole
  | .long => (orNotA .long col raw (Decimal.readSigned? 64 (Text.trim raw))).map .whole
  | .short => (orNotA .short col raw (Decimal.readSigned? 16 (Text.trim raw))).map .whole
  | .float => (orNotA .float col raw (Decimal.single.read? (Text.trim raw))).map .bits
  | .double => (orNotA .double col raw (Decimal.double.read? (Text.trim raw))).map .bits
  | .boolean => .ok (.truth (Text.eqIgnoreCase (Text.trim raw) "true"))
  | .date =>
    match Decimal.readSigned? 64 (Text.trim raw) with
    | some millis => (ofMillis col millis).map fun t => .date (some t.date)
    | none =>
      (orNotA .date col (Text.trim raw) (Date.parse? (Text.trim raw))).map fun d =>
        .date (some d)
  | .timestamp =>
    match Decimal.readSigned? 64 (Text.trim raw) with
    | some millis => (ofMillis col millis).map fun t => .timestamp (some t)
    | none =>
      (orNotA .timestamp col (Text.trim raw) (Timestamp.parse? (Text.trim raw))).map fun t =>
        .timestamp (some t)

/-- A cursor that has noted whether a text is null. -/
def noted (c : Cursor) (raw : String) : Cursor :=
  { c with wasNull := Text.eqIgnoreCase raw nullMarker }

variable {α : Type} {c c' : Cursor} {col : Column} {raw : String}

theorem access_fst (c : Cursor) (col : Column) :
    (c.access col).1 =
      (c.cellText col).map fun raw => if raw = nullMarker then none else some raw := by
  unfold access
  cases c.cellText col <;> rfl

theorem readWith_of_error {e : Error} (h : c.cellText col = .error e) (absent : α)
    (read : String → Except Error α) : c.readWith col absent read = (.error e, c) := by
  rw [readWith, access, h]

theorem readWith_of_text (h : c.cellText col = .ok raw) (absent : α)
    (read : String → Except Error α) :
    c.readWith col absent read =
      (if raw = nullMarker then .ok absent else read raw, c.noted raw) := by
  rw [readWith, access, h, noted]
  by_cases hnull : raw = nullMarker <;> simp [hnull]

/-- What a cell reads as by a rule for null and one for text, or the error of its look-up. -/
theorem readWith_fst (c : Cursor) (col : Column) (absent : α) (read : String → Except Error α) :
    (c.readWith col absent read).1 =
      (c.cellText col).bind fun raw => if raw = nullMarker then .ok absent else read raw := by
  cases h : c.cellText col with
  | error e => rw [readWith_of_error h]; rfl
  | ok raw => rw [readWith_of_text h]; rfl

theorem asReading_readWith (kind : α → Reading) (c : Cursor) (col : Column) (absent : α)
    (read : String → Except Error α) :
    asReading kind (c.readWith col absent read) =
      c.readWith col (kind absent) fun raw => (read raw).map kind := by
  cases h : c.cellText col with
  | error e => rw [readWith_of_error h, readWith_of_error h]; rfl
  | ok raw =>
    rw [readWith_of_text h, readWith_of_text h]
    by_cases hnull : raw = nullMarker <;> simp [asReading, hnull, Except.map]

theorem asReading_access (c : Cursor) (col : Column) :
    asReading .text (c.access col) =
      c.readWith col (.text none) fun raw => .ok (.text (some raw)) := by
  cases h : c.cellText col with
  | error e => rw [readWith_of_error h, access, h]; rfl
  | ok raw =>
    rw [readWith_of_text h, access, h]
    by_cases hnull : raw = nullMarker <;> simp [asReading, hnull, Except.map, noted]

/-- Getters differ in what they read of null and in how they judge a text, and in nothing else. -/
theorem Getter.run_eq (g : Getter) (c : Cursor) (col : Column) :
    g.run c col = c.readWith col g.absent fun raw => g.judge col raw := by
  cases g with
  | string | blobReference => exact asReading_access c col
  | int | long | short => exact asReading_readWith .whole c col 0 _
  | float | double => exact asReading_readWith .bits c col 0 _
  | boolean => exact asReading_readWith .truth c col false _
  | date =>
    refine (asReading_readWith .date c col none _).trans (congrArg _ ?_)
    funext raw
    dsimp only [judge]
    cases Decimal.readSigned? 64 (Text.trim raw) <;> exact map_map ..
  | timestamp =>
    refine (asReading_readWith .timestamp c col none _).trans (congrArg _ ?_)
    funext raw
    dsimp only [judge]
    cases Decimal.readSigned? 64 (Text.trim raw) <;> exact map_map ..

theorem Getter.run_of_error (g : Getter) {e : Error} (h : c.cellText col = .error e) :
    g.run c col = (.error e, c) := by
  rw [g.run_eq, readWith_of_error h]

theorem Getter.run_of_text (g : Getter) (h : c.cellText col = .ok raw) :
    g.run c col = (if raw = nullMarker then .ok g.absent else g.judge col raw, c.noted raw) := by
  rw [g.run_eq, readWith_of_text h]

/-- Getters return the same where they find the same text. -/
theorem Getter.run_congr (g : Getter) (h : c.cellText col = c'.cellText col) :
    (g.run c col).1 = (g.run c' col).1 := by
  rw [g.run_eq, g.run_eq, readWith_fst, readWith_fst, h]

/-- A getter changes at most the note of whether the cell was null. -/
theorem Getter.run_snd (g : Getter) (c : Cursor) (col : Column) :
    ∃ b, (g.run c col).2 = { c with wasNull := b } := by
  cases h : c.cellText col with
  | error e => exact ⟨c.wasNull, by rw [g.run_of_error h]⟩
  | ok raw => exact ⟨_, by rw [g.run_of_text h, noted]⟩

end RemoteSql.Cursor
