import RemoteSql.Json.Record
import RemoteSql.SortedMap

/-!
# Statement parameters

A statement has its parameters by their index. The values that a procedure gives back are put into
the slots for them all together or not at all.
-/

namespace RemoteSql

/-- Which way the value of a parameter goes. -/
inductive Direction
  | input
  | output
  | inputOutput
  deriving DecidableEq, Repr

namespace Direction

def name : Direction → String
  | .input => "in"
  | .output => "out"
  | .inputOutput => "inout"

def all : List Direction := [.input, .output, .inputOutput]

def ofName? (s : String) : Option Direction := all.find? (·.name == s)

def read? (bs : Bytes) : Option Direction := Json.readName? ofName? bs

def isOut : Direction → Bool
  | .input => false
  | _ => true

end Direction

structure Parameter where
  index : UInt32
  type : String
  /-- No value stands for null. -/
  value : Option String
  direction : Direction := .input
  deriving DecidableEq, Repr

namespace Parameter

def ofRecord? (r : Record) : Option Parameter := do
  let index ← r.field 0 "index" (Json.readUnsigned? 32) none
  let type ← r.field 1 "parameter_type" Json.parseText? none
  let value ← r.field 2 "value" (Json.readOptional? Json.parseText?) (r.absentByName none)
  let direction ← r.field 3 "direction" Direction.read? (some .input)
  return { index := UInt32.ofNat index, type, value, direction }

def read? (bs : Bytes) : Option Parameter := Record.parse? 4 ofRecord? bs

def toJson (p : Parameter) : Json :=
  .object [("index", .whole p.index.toNat), ("parameter_type", .string p.type),
    ("value", .optionalText p.value), ("direction", .string p.direction.name)]

end Parameter

/-- The parameters of a statement by their index. -/
abbrev Parameters := SortedMap UInt32 Parameter

namespace Parameters

def bind (ps : Parameters) (p : Parameter) : Parameters := SortedMap.insert ps p.index p

def set (ps : Parameters) (index : UInt32) (type : String) (value : Option String) : Parameters :=
  ps.bind { index, type, value }

def toList (ps : Parameters) : List Parameter := ps.map Prod.snd

/-- The parameters that the server gives a value back for. -/
def outSlots (ps : Parameters) : Parameters := ps.filter fun b => b.2.direction.isOut

/-- The slots with the values that were given back, if there is one for each of them. -/
def reconcile (returned : SortedMap UInt32 (Option String)) (slots : Parameters) :
    Except Error Parameters :=
  if slots.isEmpty then .ok slots
  else if returned.isEmpty then .error (.protocol .noOutParameters)
  else
    match (slots.map Prod.fst).find? fun index => (returned.get? index).isNone with
    | some missing => .error (.protocol (.noOutParameter missing))
    | none => .ok <| slots.map fun b =>
      (b.1, { b.2 with value := ((returned.get? b.1).getD b.2.value) })

end Parameters

end RemoteSql
