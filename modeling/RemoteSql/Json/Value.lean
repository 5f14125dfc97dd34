import RemoteSql.SortedMap

/-!
# JSON values

A number is its literal, so no digit is lost. An object is a map from names to values.
-/

namespace RemoteSql

inductive Json
  | null
  | bool (b : Bool)
  | number (literal : String)
  | string (text : String)
  | array (items : List Json)
  | object (members : List (String × Json))
  deriving Inhabited, Repr

namespace Json

/-- The members of an object, in ascending order of their names. -/
abbrev Members := SortedMap String Json

def items? : Json → Option (List Json)
  | .array items => some items
  | _ => none

def members? : Json → Option Members
  | .object members => some members
  | _ => none

def text? : Json → Option String
  | .string text => some text
  | _ => none

end Json

end RemoteSql
