import RemoteSql.Payload.Scanner

/-!
# The layout of a result payload

One pass over the payload decodes the fields of its object, `query_rows` apart, and notes where
each row begins. What follows the object is not looked at.
-/

namespace RemoteSql

/-- What a scan finds: the fields, and where each row begins. -/
structure Layout where
  fields : Json.Members := []
  rowOffsets : List Nat := []
  deriving Repr

namespace Payload

def rowsField : String := "query_rows"

def decode {α : Type} (read? : Bytes → Option α) (out : Store) : Except Error α :=
  match read? (out.getD []).reverse with
  | some a => .ok a
  | none => .error (.protocol .invalidJson)

section Items

variable {σ : Type} (item : Rest → σ → Except Error (σ × Rest)) (close : UInt8)
  (fault : PayloadFault)

/-- Items separated by commas up to the closing octet, at least one, gathered by `item`. An item
takes at least one octet, so the octets that remain bound the items. -/
def separated : Nat → Rest → σ → Except Error (σ × Rest)
  | 0, s, _ => .error (malformed s.offset .more)
  | fuel + 1, s, found => do
    let (found, s) ← item s found
    match s.skipBlank with
    | ⟨offset, []⟩ => throw (malformed offset fault)
    | ⟨offset, b :: rest⟩ =>
      if b = Ascii.comma then separated fuel ⟨offset + 1, rest⟩ found
      else if b = close then return (found, ⟨offset + 1, rest⟩)
      else throw (malformed offset fault)

/-- Items separated by commas up to the closing octet, perhaps none. -/
def listed (s : Rest) (found : σ) : Except Error (σ × Rest) :=
  let s := s.skipBlank
  if s.octets.head? = some close then .ok (found, ⟨s.offset + 1, s.octets.tail⟩)
  else separated item close fault (s.octets.length + 1) s found

end Items

/-- Steps over one row, whose offset is put before those given. -/
def row (s : Rest) (offsets : List Nat) : Except Error (List Nat × Rest) :=
  let s := s.skipBlank
  (copyValue s none).map fun r => (s.offset :: offsets, r.2)

/-- The value of the field that holds the rows: an array, or a word that begins as `null` does. The
offsets are in reverse, before those given. -/
def rows (s : Rest) (offsets : List Nat) : Except Error (List Nat × Rest) :=
  let s := s.skipBlank
  match s.octets with
  | [] => .error (malformed s.offset .rowArray)
  | b :: rest =>
    if b = Ascii.openBracket then
      listed row Ascii.closeBracket .commaOrBracket ⟨s.offset + 1, rest⟩ offsets
    else if b = Ascii.lowerN then (copyValue s none).map fun r => (offsets, r.2)
    else .error (malformed s.offset .rowArray)

/-- The name of a field, with its colon. -/
def fieldName (s : Rest) : Except Error (String × Rest) :=
  let s := s.skipBlank
  if s.octets.head? = some Ascii.quote then do
    let (key, s) ← copyString s (some [])
    let name ← decode Json.parseText? key
    let s ← s.expect Ascii.colon .colon
    return (name, s)
  else .error (malformed s.offset .fieldName)

/-- The value of a field, added to the layout; the layout's offsets are in reverse. -/
def fieldValue (name : String) (s : Rest) (layout : Layout) : Except Error (Layout × Rest) :=
  if name = rowsField then
    (rows s layout.rowOffsets).map fun r => ({ layout with rowOffsets := r.1 }, r.2)
  else do
    let (raw, s) ← copyValue s (some [])
    let value ← decode Json.parse? raw
    return ({ layout with fields := layout.fields.insert name value }, s)

def field (s : Rest) (layout : Layout) : Except Error (Layout × Rest) := do
  let (name, s) ← fieldName s
  fieldValue name s layout

def scanObject (payload : Bytes) : Except Error (Layout × Rest) := do
  let s ← Rest.expect ⟨0, payload⟩ Ascii.openBrace .openBrace
  let (layout, s) ← listed field Ascii.closeBrace .commaOrBrace s {}
  return ({ layout with rowOffsets := layout.rowOffsets.reverse }, s)

def scan (payload : Bytes) : Except Error Layout := (scanObject payload).map Prod.fst

end Payload

end RemoteSql
