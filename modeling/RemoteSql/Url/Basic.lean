import RemoteSql.Error
import RemoteSql.Url.Ip
import RemoteSql.Url.Path

/-!
# URLs

An absolute URL in the form in which it is written: scheme, authority, path, query and fragment,
all of them normalised. The schemes of the web are special: they have a host, a path that begins
with a slash, and a backslash counts as a slash in them.
-/

namespace RemoteSql

structure Url where
  scheme : String
  /-- Credentials, host and port, as they stand after the two slashes. -/
  authority : Option (List Char)
  path : List Char
  /-- Whether a slash and a dot keep the first two slashes of the path from being taken for those of
  an authority. -/
  isShielded : Bool := false
  query : Option (List Char) := none
  fragment : Option (List Char) := none
  /-- Whether the path is made of segments. -/
  hasSegments : Bool := true
  deriving DecidableEq, Repr

namespace Url

def isFile (scheme : String) : Bool := scheme == "file"

def isSpecial (scheme : String) : Bool :=
  ["http", "https", "ws", "wss", "ftp", "file"].contains scheme

/-- The port that need not be written. -/
def defaultPort? (scheme : String) : Option Nat :=
  if scheme = "http" ∨ scheme = "ws" then some 80
  else if scheme = "https" ∨ scheme = "wss" then some 443
  else if scheme = "ftp" then some 21
  else none

/-- A part with its mark before it, if there is the part. -/
def marked (mark : Char) : Option (List Char) → List Char
  | none => []
  | some part => mark :: part

/-- What stands between the colon and the path. -/
def beforePath (u : Url) : List Char :=
  match u.authority with
  | some authority => '/' :: '/' :: authority
  | none => if u.isShielded then ['/', '.'] else []

def chars (u : Url) : List Char :=
  u.scheme.toList ++ ':' :: u.beforePath ++ u.path ++ marked '?' u.query ++ marked '#' u.fragment

def render (u : Url) : String := String.ofList u.chars

/-- The URL with segments added to its path, after an empty last one is taken away. -/
def extend (u : Url) (segments : List String) : Url :=
  let step := fun path (segment : String) =>
    let path := Path.push (isSpecial u.scheme) path segment.toList
    if isFile u.scheme then Path.withSingleRoot path else path
  { u with path := segments.foldl step (Path.popIfEmpty u.path) }

end Url

end RemoteSql
