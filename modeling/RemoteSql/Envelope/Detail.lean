import RemoteSql.Envelope
import RemoteSql.Json.Record

/-!
# Parts of an envelope as JSON
-/

namespace RemoteSql

namespace ResponseStatus

def all : List ResponseStatus := [.ok, .fail]

def ofName? (s : String) : Option ResponseStatus := all.find? (·.name == s)

def read? (bs : Bytes) : Option ResponseStatus := Json.readName? ofName? bs

end ResponseStatus

namespace ErrorDetail

def ofRecord? (r : Record) : Option ErrorDetail := do
  let errorType ← r.field 0 "error_type" (Json.readSigned? 32) (some 0)
  let message ← r.field 1 "error_message" Json.parseText? (some "")
  let stackTrace ← r.field 2 "stack_trace" (Json.readOptional? Json.parseText?) (some none)
  let httpStatus ← r.field 3 "http_status" (Json.readOptional? (Json.readUnsigned? 16)) (some none)
  return {
    errorType := Int32.ofInt errorType
    message
    stackTrace
    httpStatus := httpStatus.map UInt16.ofNat }

/-- A report as JSON; every part may be left out. -/
def read? (bs : Bytes) : Option ErrorDetail := Record.parse? 4 ofRecord? bs

def toJson (d : ErrorDetail) : Json :=
  .object <| [("error_type", .whole d.errorType.toInt), ("error_message", .string d.message)] ++
    Json.optionalMember "stack_trace" (d.stackTrace.map .string) ++
    Json.optionalMember "http_status" (d.httpStatus.map fun code => .whole code.toNat)

end ErrorDetail

end RemoteSql
