import RemoteSql.Error
import RemoteSql.Text.Quoted
import RemoteSql.Url.Parser

/-!
# Proxies
-/

namespace RemoteSql

structure Proxy where
  url : String
  username : Option String := none
  password : Option String := none
  deriving DecidableEq, Repr

namespace Proxy

/-- Whether the proxy is told who asks. -/
def isAuthenticated (p : Proxy) : Bool := p.username.isSome

def describeOptional : Option String → String
  | none => "None"
  | some s => "Some(" ++ Text.quoted s ++ ")"

/-- The proxy in words, its password hidden. -/
def describe (p : Proxy) : String :=
  "ProxyConfig \x7b url: " ++ Text.quoted p.url ++ ", username: " ++ describeOptional p.username ++
    ", password: " ++ describeOptional (p.password.map fun _ => "***") ++ " \x7d"

/-- Whether a URL leads to a host. -/
def hasHost (u : Url) : Bool := u.authority.any fun authority => !authority.isEmpty

/-- Whether a text is the URL of a proxy. One that has no scheme, or leads to no host, is taken for
an address to which the scheme has to be added. -/
def isUsable (url : String) : Bool :=
  let addressed := match Url.parse ("http://" ++ url) with
    | .ok u => hasHost u
    | .error _ => false
  match Url.parse url with
  | .ok u => hasHost u || addressed
  | .error .noBase => addressed
  | .error _ => false

/-- Refuses a proxy that cannot be reached under its URL. -/
def check (p : Proxy) : Except Error Unit :=
  if isUsable p.url then .ok () else .error (.configuration (.proxyUrl p.url))

end Proxy

end RemoteSql
