import RemoteSql.Client.Options
import RemoteSql.Client.Proxy
import RemoteSql.Client.Timeouts
import RemoteSql.Connection.Basic

/-!
# Clients

A client is made from settings, which are checked once. It opens connections to its server; with a
network of its own it also has to be able to use its proxy and to say who it is.
-/

namespace RemoteSql

structure ClientSettings where
  serverUrl : String := ""
  timeouts : Timeouts := {}
  proxy : Option Proxy := none
  options : ConnectionOptions := {}
  deriving DecidableEq, Repr

structure Client where
  serverUrl : String
  timeouts : Timeouts := {}
  proxy : Option Proxy := none
  options : ConnectionOptions := {}
  deriving DecidableEq, Repr

namespace ClientSettings

/-- The server's URL without blanks around it and without slashes at its end. -/
def cleanUrl (s : ClientSettings) : String :=
  String.ofList (Text.dropTrailing (· == '/') (Text.trim s.serverUrl).toList)

/-- Refuses a URL that no request can be sent to. -/
def checkUrl (url : String) : Except Error Unit :=
  if url.isEmpty then .error (.required "server_url")
  else
    match Url.parse url with
    | .error fault => .error (.configuration (.malformedServerUrl url fault))
    | .ok parsed =>
      if ["http", "https"].contains parsed.scheme then .ok ()
      else .error (.configuration (.schemeNotHttp url))

def isHeaderChar (c : Char) : Bool := c == '\t' || (0x20 ≤ c.toNat && c.toNat != 0x7F)

/-- Refuses a proxy that cannot be used and a name that no header can hold. -/
def checkNetwork (s : ClientSettings) : Except Error Unit := do
  match s.proxy with
  | some proxy => proxy.check
  | none => pure ()
  if s.options.userAgent.toList.all isHeaderChar then return ()
  else throw (.configuration .userAgent)

/-- The client with these settings; `ownNetwork` says whether it makes its requests itself. -/
def build (s : ClientSettings) (ownNetwork : Bool) : Except Error Client := do
  checkUrl s.cleanUrl
  if ownNetwork then s.checkNetwork
  return { serverUrl := s.cleanUrl, timeouts := s.timeouts, proxy := s.proxy, options := s.options }

end ClientSettings

namespace Client

variable (c : Client)

def connect (database username password : String) : ManagerM Connection := do
  let session ← Manager.login c.serverUrl database username password
  return { session, options := c.options }

def connectBySessionId (database username sessionId : String) : WireM Connection := do
  let session ← Manager.resume c.serverUrl database username sessionId
  return { session, options := c.options }

def describe : String :=
  let proxy := match c.proxy with
    | none => "None"
    | some proxy => "Some(" ++ proxy.describe ++ ")"
  "AceQlClient \x7b server_url: " ++ Text.quoted c.serverUrl ++ ", timeouts: " ++
    c.timeouts.describe ++ ", proxy: " ++ proxy ++ ", options: " ++ c.options.describe ++
    ", .. \x7d"

end Client

end RemoteSql
