import RemoteSql.Decimal.Whole
import RemoteSql.Error
import RemoteSql.Json.Printer
import RemoteSql.Json.Skip

/-!
# Records in JSON

A record is written as an object, its fields in any order, or as an array, its fields in their own
order. Fields that are not asked for are not looked into; a field that is written twice makes the
record unreadable.
-/

namespace RemoteSql

/-- A record whose values are still text. -/
inductive Record
  | named (fields : List (String × Bytes))
  | placed (values : List Bytes)
  deriving DecidableEq, Repr

namespace Record

open Json

/-- The fields at the head, and what follows them. -/
def leading? (bs : Bytes) : Option (Record × Bytes) :=
  match skipSpace bs with
  | Ascii.openBrace :: rest =>
    (items (member span) Ascii.closeBrace rest).map fun (fields, rest) => (.named fields, rest)
  | Ascii.openBracket :: rest =>
    (items span Ascii.closeBracket rest).map fun (values, rest) => (.placed values, rest)
  | _ => none

def ofText? (bs : Bytes) : Option Record := do
  let (r, rest) ← leading? bs
  if skipSpace rest = [] then some r else none

def ofJson? : Json → Option Record
  | .object members => some (.named (members.map fun m => (m.1, Utf8.encode m.2.render)))
  | .array values => some (.placed (values.map fun v => Utf8.encode v.render))
  | _ => none

/-- Whether a record has no more places than there are fields. -/
def fits (r : Record) (fieldCount : Nat) : Bool :=
  match r with
  | .named _ => true
  | .placed values => values.length ≤ fieldCount

/-- The texts that are given for a field. -/
def given (r : Record) (place : Nat) (name : String) : List Bytes :=
  match r with
  | .named fields => (fields.filter (·.1 == name)).map Prod.snd
  | .placed values => values[place]?.toList

/-- The value of a field, or what stands for it when it is absent. -/
def field {α : Type} (r : Record) (place : Nat) (name : String) (read : Bytes → Option α)
    (absent : Option α) : Option α :=
  match r.given place name with
  | [] => absent
  | [text] => read text
  | _ => none

/-- What stands for a field that a record may leave out by name, but not by place. -/
def absentByName {α : Type} (r : Record) (absent : α) : Option α :=
  match r with
  | .named _ => some absent
  | .placed _ => none

end Record

namespace Json

def readBool? (bs : Bytes) : Option Bool :=
  match parse? bs with
  | some (.bool b) => some b
  | _ => none

def readOptional? {α : Type} (read : Bytes → Option α) (bs : Bytes) : Option (Option α) :=
  match parse? bs with
  | some .null => some none
  | _ => (read bs).map some

/-- A whole number, without point and exponent. Zero has no sign. -/
def readWhole? (bs : Bytes) : Option Int :=
  match parseNumber? bs with
  | some literal => if literal = "-0" then none else Decimal.signed? literal.toList
  | none => none

def readUnsigned? (bits : Nat) (bs : Bytes) : Option Nat :=
  ((readWhole? bs).filter fun (n : Int) => decide (0 ≤ n ∧ n < Nat.pow 2 bits)).map Int.toNat

def readSigned? (bits : Nat) (bs : Bytes) : Option Int :=
  (readWhole? bs).filter fun n => decide (Decimal.FitsSigned bits n)

/-- One of several names: a string, or the one member of an object, whose value is null. -/
def readName? {α : Type} (ofName? : String → Option α) (bs : Bytes) : Option α :=
  match Record.ofText? bs with
  | some (.named [(name, value)]) => if parse? value matches some .null then ofName? name else none
  | some _ => none
  | none => (parseText? bs).bind ofName?

def whole (n : Int) : Json := .number (toString n)

def optionalText : Option String → Json
  | none => .null
  | some s => .string s

/-- A member that is left out when it has no value. -/
def optionalMember (name : String) : Option Json → List (String × Json)
  | none => []
  | some v => [(name, v)]

end Json

/-- What a text holds, or the error of a text that cannot be read. -/
def Json.decode {α : Type} (read : Bytes → Option α) (text : String) : Except Error α :=
  match read (Utf8.encode text) with
  | some a => .ok a
  | none => .error (.protocol .invalidJson)

/-- What a record of at most so many fields is read as. -/
def Record.read? {α : Type} (fieldCount : Nat) (build : Record → Option α) (r : Record) :
    Option α :=
  if r.fits fieldCount then build r else none

/-- What a text that holds a record is read as. -/
def Record.parse? {α : Type} (fieldCount : Nat) (build : Record → Option α) (bs : Bytes) :
    Option α :=
  (ofText? bs).bind (read? fieldCount build)

end RemoteSql
