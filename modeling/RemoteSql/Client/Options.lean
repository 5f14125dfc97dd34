import RemoteSql.Json.Record
import RemoteSql.Text.Quoted

/-!
# Connection options
-/

namespace RemoteSql

inductive HttpVersion
  | one
  | two
  | negotiated
  deriving DecidableEq, Repr

namespace HttpVersion

def name : HttpVersion → String
  | .one => "http1"
  | .two => "http2"
  | .negotiated => "auto"

def all : List HttpVersion := [.one, .two, .negotiated]

def ofName? (s : String) : Option HttpVersion := all.find? (·.name == s)

def read? (bs : Bytes) : Option HttpVersion := Json.readName? ofName? bs

def describe : HttpVersion → String
  | .one => "Http1"
  | .two => "Http2"
  | .negotiated => "Auto"

end HttpVersion

structure ConnectionOptions where
  httpVersion : HttpVersion := .one
  /-- Whether results are to be compressed. -/
  gzipResult : Bool := true
  traceOn : Bool := false
  userAgent : String := "aceql-link/0.3.0"
  deriving DecidableEq, Repr

namespace ConnectionOptions

def ofRecord? (r : Record) : Option ConnectionOptions := do
  let absent : ConnectionOptions := {}
  let httpVersion ← r.field 0 "http_version" HttpVersion.read? absent.httpVersion
  let gzipResult ← r.field 1 "gzip_result" Json.readBool? absent.gzipResult
  let traceOn ← r.field 2 "trace_on" Json.readBool? absent.traceOn
  let userAgent ← r.field 3 "user_agent" Json.parseText? absent.userAgent
  return { httpVersion, gzipResult, traceOn, userAgent }

/-- Options as JSON; those that are left out have their defaults. -/
def read? (bs : Bytes) : Option ConnectionOptions := Record.parse? 4 ofRecord? bs

def toJson (o : ConnectionOptions) : Json :=
  .object [("http_version", .string o.httpVersion.name), ("gzip_result", .bool o.gzipResult),
    ("trace_on", .bool o.traceOn), ("user_agent", .string o.userAgent)]

def describe (o : ConnectionOptions) : String :=
  "ConnectionOptions \x7b http_version: " ++ o.httpVersion.describe ++ ", gzip_result: " ++
    toString o.gzipResult ++ ", trace_on: " ++ toString o.traceOn ++ ", user_agent: " ++
    Text.quoted o.userAgent ++ " \x7d"

end ConnectionOptions

end RemoteSql
