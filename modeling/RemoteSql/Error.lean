import RemoteSql.Cursor.Column

/-!
# Errors

An error names its cause. The cause fixes the kind, by which a caller decides what to do, and the
message, which is for people; both are read off here and nowhere else.
-/

namespace RemoteSql

structure HttpStatus where
  code : UInt16
  phrase : String
  deriving DecidableEq, Repr

/-- Only 200 counts as success. -/
def HttpStatus.isSuccess (s : HttpStatus) : Bool := s.code == 200

/-- Why a text is no URL. -/
inductive UrlFault
  | noBase
  | emptyHost
  | portNumber
  | ipv4
  | ipv6
  | domain
  | domainCharacter
  deriving DecidableEq, Repr

def UrlFault.message : UrlFault → String
  | .noBase => "relative URL without a base"
  | .emptyHost => "empty host"
  | .portNumber => "invalid port number"
  | .ipv4 => "invalid IPv4 address"
  | .ipv6 => "invalid IPv6 address"
  | .domain => "invalid international domain name"
  | .domainCharacter => "invalid domain character"

inductive ConfigurationFault
  | required (input : String)
  | malformedServerUrl (url : String) (fault : UrlFault)
  | schemeNotHttp (url : String)
  | cannotBeBase (url : String)
  | schemaFormat (format : String)
  | proxyUrl (url : String)
  | userAgent
  | other (text : String)
  deriving DecidableEq, Repr

def ConfigurationFault.message : ConfigurationFault → String
  | .required input => input ++ " is required"
  | .malformedServerUrl url fault => "Invalid server_url '" ++ url ++ "': " ++ fault.message
  | .schemeNotHttp url => "server_url must use http or https: " ++ url
  | .cannotBeBase url => "Server URL cannot be a base: " ++ url
  | .schemaFormat format =>
    "Invalid format value. Must be \"html\" or \"text\". is: " ++ format
  | .proxyUrl url => "Invalid proxy URL '" ++ url ++ "'"
  | .userAgent => "builder error"
  | .other text => text

/-- Why a read gave no octets. -/
inductive ReadFault
  /-- The read was broken off and may be tried again. -/
  | interrupted
  /-- The source is broken. -/
  | failed (text : String)
  /-- The octets are no gzip member, or only a part of one. -/
  | corrupt
  /-- The transfer was cancelled before the read. -/
  | withdrawn
  deriving DecidableEq, Repr

def ReadFault.message : ReadFault → String
  | .interrupted => "interrupted"
  | .failed text => text
  | .corrupt => "<gzip>"
  | .withdrawn => "blob transfer cancelled"

/-- Why a call brought back no response. -/
inductive TransportFault
  | malformedUrl (fault : UrlFault)
  | reading (fault : ReadFault)
  | other (text : String)
  deriving DecidableEq, Repr

def TransportFault.message : TransportFault → String
  | .malformedUrl fault => "Malformed URL: " ++ fault.message
  | .reading fault => fault.message
  | .other text => text

/-- What the scanner of a result payload missed. -/
inductive PayloadFault
  | openBrace
  | colon
  | fieldName
  | commaOrBrace
  | rowArray
  | commaOrBracket
  | value
  | more
  deriving DecidableEq, Repr

def PayloadFault.message : PayloadFault → String
  | .openBrace => "expected '\x7b'"
  | .colon => "expected ':'"
  | .fieldName => "expected a field name"
  | .commaOrBrace => "expected ',' or '\x7d'"
  | .rowArray => "query_rows is not an array"
  | .commaOrBracket => "expected ',' or ']' in query_rows"
  | .value => "expected a value"
  | .more => "unexpected end of payload"

inductive ProtocolFault
  | invalidJson
  | malformedPayload (offset : Nat) (fault : PayloadFault)
  | negativeRowCount (count : Int)
  | missingRows (declared received : Nat)
  | noRow (row : Nat)
  | rowShape (row : Nat)
  | emptyCell (row : Nat)
  | cellShape (row : Nat)
  | noField (field : String)
  | noResult (action : String)
  | noLength
  | blobLength (text : String)
  | notBoolean (text : String)
  | unknownIsolation (text : String)
  | unknownHoldability (text : String)
  | noOutParameters
  | noOutParameter (index : UInt32)
  | other (text : String) (errorType : Int32)
  deriving DecidableEq, Repr

def ProtocolFault.message : ProtocolFault → String
  | .invalidJson => "Invalid JSON document"
  | .malformedPayload offset fault =>
    "Malformed query result payload at byte " ++ toString offset ++ ": " ++ fault.message
  | .negativeRowCount count => "Invalid row_count: " ++ toString count
  | .missingRows declared received =>
    "Result declares " ++ toString declared ++ " rows but only " ++ toString received ++
      " were received"
  | .noRow row => "Row " ++ toString row ++ " is missing"
  | .rowShape row => "Row " ++ toString row ++ " is not a column array"
  | .emptyCell row => "Row " ++ toString row ++ " has an empty cell"
  | .cellShape row => "Row " ++ toString row ++ " has a malformed cell"
  | .noField field => "AceQL Server response has no " ++ field
  | .noResult action => "AceQL Server returned no result for " ++ action
  | .noLength => "AceQL Server response has no length"
  | .blobLength text => "Invalid blob length: " ++ text
  | .notBoolean text => "Expected a boolean, AceQL Server returned '" ++ text ++ "'"
  | .unknownIsolation text => "Unknown transaction isolation level: " ++ text
  | .unknownHoldability text => "Unknown holdability: " ++ text
  | .noOutParameters => "No stored procedure out parameters returned by AceQL Server"
  | .noOutParameter index =>
    "Stored procedure out parameter " ++ toString index ++ " not returned by AceQL Server"
  | .other text _ => text

/-- The code of a fault with stored procedure parameters. -/
def outParameterErrorType : Int32 := 4

def ProtocolFault.errorType : ProtocolFault → Int32
  | .noOutParameters | .noOutParameter _ => outParameterErrorType
  | .other _ errorType => errorType
  | _ => 0

structure ErrorDetail where
  errorType : Int32 := 0
  message : String := ""
  stackTrace : Option String := none
  httpStatus : Option UInt16 := none
  deriving DecidableEq, Repr

/-- Something that can be closed. -/
inductive Resource
  | cursor
  | connection
  | other (name : String)
  deriving DecidableEq, Repr

def Resource.name : Resource → String
  | .cursor => "ResultCursor"
  | .connection => "Connection"
  | .other name => name

/-- Why a column cannot be read. -/
inductive ColumnFault
  | unknown (column : Column)
  | other (text : String)
  deriving DecidableEq, Repr

def ColumnFault.message : ColumnFault → String
  | .unknown (.index n) => "Invalid column index: " ++ toString n
  | .unknown (.name s) => "Invalid column name: " ++ s
  | .other text => text

/-- Why a cell cannot be read as a type. -/
inductive CellFault
  | notA (type : CellType) (column : Column) (raw : String)
  | other (text : String)
  deriving DecidableEq, Repr

def CellFault.message : CellFault → String
  | .notA type column raw =>
    "Column " ++ column.text ++ " value '" ++ raw ++ "' is not a valid " ++ type.name
  | .other text => text

inductive Error
  | configuration (fault : ConfigurationFault)
  | authentication (detail : ErrorDetail) (code : UInt16)
  | transport (fault : TransportFault)
  | server (detail : ErrorDetail) (status : HttpStatus)
  | protocol (fault : ProtocolFault)
  | invalidColumn (fault : ColumnFault)
  | closed (resource : Resource)
  | dataFormat (fault : CellFault)
  | cancelled
  | localIo (text : String)
  deriving DecidableEq, Repr

inductive ErrorKind
  | configuration
  | transport
  | server
  | protocol
  | dataFormat
  | cancelled
  | localIo
  deriving DecidableEq, Repr

namespace Error

def kind : Error → ErrorKind
  | .configuration _ => .configuration
  | .authentication .. | .server .. => .server
  | .transport _ => .transport
  | .protocol _ | .invalidColumn _ | .closed _ => .protocol
  | .dataFormat _ => .dataFormat
  | .cancelled => .cancelled
  | .localIo _ => .localIo

def message : Error → String
  | .configuration fault => "Configuration error: " ++ fault.message
  | .authentication detail _ => "Authentication failed: " ++ detail.message
  | .transport fault => "Transport error: " ++ fault.message
  | .server detail status =>
    "Server error (" ++ toString status.code ++ "): " ++ detail.message
  | .protocol fault => "Protocol error: " ++ fault.message
  | .invalidColumn fault => "Invalid column: " ++ fault.message
  | .closed resource => resource.name ++ " is closed"
  | .dataFormat fault => "Data format error: " ++ fault.message
  | .cancelled => "Transfer cancelled"
  | .localIo text => "Local I/O error: " ++ text

def errorType : Error → Int32
  | .authentication detail _ | .server detail _ => detail.errorType
  | .protocol fault => fault.errorType
  | _ => 0

def stackTrace : Error → Option String
  | .authentication detail _ | .server detail _ => detail.stackTrace
  | _ => none

def httpCode : Error → Option UInt16
  | .authentication _ code => some code
  | .server _ status => some status.code
  | _ => none

def required (input : String) : Error := .configuration (.required input)

/-- A read that failed on the network side. -/
def reading (fault : ReadFault) : Error := .transport (.reading fault)

end Error

end RemoteSql
