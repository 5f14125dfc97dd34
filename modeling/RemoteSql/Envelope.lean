import RemoteSql.Decimal.Whole
import RemoteSql.Error
import RemoteSql.Http.Response
import RemoteSql.Json.Parser
import RemoteSql.Json.Printer
import RemoteSql.Text.Basic

/-!
# Response envelopes

A response is a JSON object whose `status` says `OK` or `FAIL`. Decoding always gives a verdict: a
body that is no such object is a failure that the HTTP status describes. A verdict of success
carries the whole object, one of failure what the server reported.
-/

namespace RemoteSql

inductive ResponseStatus
  | ok
  | fail
  deriving DecidableEq, Repr

def ResponseStatus.parse? (s : String) : Option ResponseStatus :=
  if Text.eqIgnoreCase s "OK" then some .ok
  else if Text.eqIgnoreCase s "FAIL" then some .fail
  else none

def ResponseStatus.name : ResponseStatus → String
  | .ok => "OK"
  | .fail => "FAIL"

/-- What stands for a null value on the wire. -/
def nullMarker : String := "NULL"

namespace Json

/-- The whole number that a number or a string holds, if it fits 64 bits. -/
def integer? : Json → Option Int
  | .number literal => Decimal.readSigned? 64 literal
  | .string text => Decimal.readSigned? 64 (Text.trim text)
  | _ => none

end Json

inductive Verdict
  | success (document : Json.Members)
  | failure (detail : ErrorDetail)
  deriving Repr

structure Envelope where
  verdict : Verdict
  http : HttpStatus
  deriving Repr

namespace Envelope

/-- The text of a failure that only the HTTP status describes. -/
def httpFailureText (http : HttpStatus) : String :=
  Text.trimEnd ("HTTP_FAILURE " ++ toString http.code ++ " " ++ http.phrase)

def httpFailureDetail (http : HttpStatus) : ErrorDetail where
  message := httpFailureText http
  httpStatus := some http.code

def httpFailure (http : HttpStatus) : Envelope := ⟨.failure (httpFailureDetail http), http⟩

/-- What a failing response says about itself. The error type is cut down to 32 bits. -/
def detailOf (document : Json.Members) : ErrorDetail where
  errorType := Int32.ofInt (((document.get? "error_type").bind Json.integer?).getD 0)
  message := ((document.get? "error_message").bind Json.fieldText?).getD ""
  stackTrace := (document.get? "stack_trace").bind Json.fieldText?
  httpStatus := ((document.get? "http_status").bind Json.integer?).bind fun n =>
    if 0 ≤ n ∧ n < 65536 then some (UInt16.ofNat n.toNat) else none

def statusOf (document : Json.Members) : Option ResponseStatus :=
  ((document.get? "status").bind Json.text?).bind ResponseStatus.parse?

def ofDocument (document : Json.Members) (http : HttpStatus) : Envelope :=
  match statusOf document with
  | none => httpFailure http
  | some .ok => ⟨.success document, http⟩
  | some .fail => ⟨.failure (detailOf document), http⟩

def document? (body : String) : Option Json.Members :=
  (Json.parse? (Utf8.encode (Text.trim body))).bind Json.members?

def decode (body : String) (http : HttpStatus) : Envelope :=
  match document? body with
  | none => httpFailure http
  | some document => ofDocument document http

def ofReply (r : Reply) : Envelope := decode r.body r.status

variable (e : Envelope)

def isOk : Bool :=
  match e.verdict with
  | .success _ => true
  | .failure _ => false

def status : ResponseStatus := if e.isOk then .ok else .fail

/-- What went wrong, when it did. -/
def detail? : Option ErrorDetail :=
  match e.verdict with
  | .success _ => none
  | .failure detail => some detail

def document : Option Json.Members :=
  match e.verdict with
  | .success document => some document
  | .failure _ => none

def errorMessage : Option String := e.detail?.map (·.message)

def errorType : Int32 := (e.detail?.map (·.errorType)).getD 0

def stackTrace : Option String := e.detail?.bind (·.stackTrace)

def field? (key : String) : Option String :=
  (e.document.bind (·.get? key)).bind Json.fieldText?

def integer? (key : String) : Option Int := (e.document.bind (·.get? key)).bind Json.integer?

/-- The field that answers a property action. -/
def result : Option String := e.field? "result"

def objectField (key : String) : Json.Members :=
  ((e.document.bind (·.get? key)).bind Json.members?).getD []

/-- The value of an output parameter; the null marker stands for no value. -/
def outValue (v : Json) : Option String := v.fieldText?.filter (· != nullMarker)

/-- The output parameters by their index, the last one if several names spell an index. -/
def outByIndex : SortedMap UInt32 (Option String) :=
  SortedMap.ofList <| (e.objectField "parameters_out_per_index").filterMap fun m =>
    (Decimal.readUnsigned? 32 (Text.trim m.1)).map fun n => (UInt32.ofNat n, outValue m.2)

def outByName : SortedMap String (Option String) :=
  (e.objectField "parameters_out_per_name").map fun m => (m.1, outValue m.2)

def error? : Option Error := e.detail?.map fun detail => .server detail e.http

/-- The document of a success, or the error. -/
def toExcept : Except Error Json.Members :=
  match e.verdict with
  | .success document => .ok document
  | .failure detail => .error (.server detail e.http)

/-- The error of a reply that must not pass for a success: a body that calls itself OK still
counts as a failure of its HTTP status. -/
def failureOf (r : Reply) : Error :=
  .server (((ofReply r).detail?).getD (httpFailureDetail r.status)) r.status

end Envelope

end RemoteSql
