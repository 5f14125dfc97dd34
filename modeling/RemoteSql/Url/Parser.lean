import RemoteSql.Url.Host

/-!
# Reading URLs

A text is read as an absolute URL. Blanks and control characters around it do not count, nor do
tabs and line breaks within. Each reader takes what remains and gives back what it leaves. In a file
URL a letter and a colon or a bar name a drive, which is the root of its path and leaves no room for
a host.
-/

namespace RemoteSql.Url

/-- A control character or a space. -/
def isTrimmed (c : Char) : Bool := c.toNat ≤ 0x20

def trimmed (s : String) : List Char :=
  ((s.toList.dropWhile isTrimmed).reverse.dropWhile isTrimmed).reverse

/-- The characters of a text that count. -/
def significant (cs : List Char) : List Char := cs.filter fun c => !isIgnored c

/-- The first character that counts, and what follows it. -/
def next? (cs : List Char) : Option (Char × List Char) :=
  match cs.dropWhile isIgnored with
  | [] => none
  | c :: rest => some (c, rest)

/-- Whether a character may stand in the name of a scheme. -/
def isSchemeChar (c : Char) : Bool := c.isAlphanum || c == '+' || c == '-' || c == '.'

/-- The scheme in lower case, and what follows its colon. -/
def readScheme (cs : List Char) : Option (String × List Char) :=
  let text := cs.takeWhile fun c => isSchemeChar c || isIgnored c
  match significant text, cs.drop text.length with
  | c :: name, ':' :: rest =>
    if c.isAlpha then some (String.ofList ((c :: name).map Char.toLower), rest) else none
  | _, _ => none

/-- Whether a character ends the authority. -/
def endsAuthority (special : Bool) (c : Char) : Bool :=
  c == '/' || c == '?' || c == '#' || (special && c == '\\')

/-- Splits an authority at its last at sign; nothing stands before it when there is none. -/
def splitCredentials (cs : List Char) : Option (List Char) × List Char :=
  if cs.contains '@' then
    let host := (cs.reverse.takeWhile (· != '@')).reverse
    (some (cs.take (cs.length - host.length - 1)), host)
  else (none, cs)

/-- Credentials as they are written before the host: name, colon and password, and an at sign. -/
def credentialChars (cs : List Char) : List Char :=
  let user := cs.takeWhile (· != ':')
  let secret := (cs.dropWhile (· != ':')).drop 1
  let encoded := encode EncodeSet.userinfo
  if user.isEmpty && secret.isEmpty then []
  else if secret.isEmpty then encoded user ++ ['@']
  else encoded user ++ ':' :: encoded secret ++ ['@']

/-- The host at the head, up to a colon outside brackets; `inside` says that a bracket is open. -/
def hostLength (inside : Bool) : List Char → Nat
  | [] => 0
  | c :: cs =>
    if c = ':' ∧ !inside then 0
    else 1 + hostLength (if c = '[' then true else if c = ']' then false else inside) cs

/-- The port after the colon, unless it is the default one. A backslash ends it in every URL. -/
def readPort (scheme : String) (cs : List Char) : Except UrlFault (List Char × List Char) :=
  let digits := cs.takeWhile (· != '\\')
  let rest := cs.drop digits.length
  if digits.all Char.isDigit then
    let n := Decimal.ofDigits digits
    if 65535 < n then .error .portNumber
    else if digits.isEmpty ∨ some n = defaultPort? scheme then .ok ([], rest)
    else .ok (':' :: (toString n).toList, rest)
  else .error .portNumber

/-- The host and port of an authority, and what of the path follows them already. -/
def readHostAndPort (scheme : String) (cs : List Char) :
    Except UrlFault (List Char × List Char) := do
  let name := cs.take (hostLength false cs)
  let rest := cs.drop name.length
  if name.isEmpty && isSpecial scheme then throw .emptyHost
  let host ← if isSpecial scheme then Host.special name else Host.other name
  match rest with
  | [] => return (host, [])
  | _ :: digits =>
    if host.isEmpty then throw .emptyHost
    let (port, rest) ← readPort scheme digits
    return (host ++ port, rest)

/-- The authority that a text writes, and what of the path follows it already; `followed` says that
more comes after the text. -/
def readAuthority (scheme : String) (cs : List Char) (followed : Bool) :
    Except UrlFault (List Char × List Char) := do
  match splitCredentials cs with
  | (none, host) => readHostAndPort scheme host
  | (some credentials, host) =>
    let lead := credentialChars credentials
    if credentials.isEmpty && host.isEmpty && followed then throw .emptyHost
    let (host, rest) ← readHostAndPort scheme host
    if host.isEmpty && !lead.isEmpty then throw .emptyHost
    return (lead ++ host, rest)

def readTail (u : Url) (cs : List Char) : Url :=
  let cs := significant cs
  let set := if isSpecial u.scheme then EncodeSet.specialQuery else EncodeSet.query
  let encodeFragment := encode EncodeSet.fragment
  match cs with
  | '?' :: rest =>
    let query := rest.takeWhile (· != '#')
    let fragment? := match rest.drop query.length with
      | _ :: fragment => some (encodeFragment fragment)
      | [] => none
    { u with query := some (encode set query), fragment := fragment? }
  | '#' :: rest => { u with fragment := some (encodeFragment rest) }
  | _ => u

/-- A URL read up to the path of which a part has been read. Without an authority, a path that
begins with two slashes is kept from being taken for one. -/
def readPath (scheme : String) (authority : Option (List Char)) (path cs : List Char) : Url :=
  let (path, rest) := Path.read (isSpecial scheme) (isFile scheme) path [] cs
  let path := if isFile scheme then Path.withSingleRoot path else path
  let isShielded := authority.isNone && "//".toList.isPrefixOf path
  readTail { scheme, authority, path, isShielded } rest

/-- The path, query and fragment after an authority. A slash at the head of the path goes without
saying in a special URL, and in another one that has a path. -/
def readRooted (scheme : String) (authority : Option (List Char)) (cs : List Char) : Url :=
  let special := isSpecial scheme
  match next? cs with
  | some ('/', rest) => readPath scheme authority ['/'] rest
  | some (c, rest) =>
    if special && c == '\\' then readPath scheme authority ['/'] rest
    else if !special && (c == '?' || c == '#') then readPath scheme authority [] cs
    else readPath scheme authority ['/'] cs
  | none => readPath scheme authority (if special then ['/'] else []) []

/-- A URL with an authority, read from after its slashes. -/
def readWithAuthority (scheme : String) (cs : List Char) : Except UrlFault Url := do
  let text := cs.takeWhile fun c => !endsAuthority (isSpecial scheme) c
  let rest := cs.drop text.length
  let (authority, begun) ← readAuthority scheme (significant text) !rest.isEmpty
  return readRooted scheme (some authority) (begun ++ rest)

def isSlash (c : Char) : Bool := c == '/' || c == '\\'

def drive? (cs : List Char) : Option (Char × List Char) := do
  let (letter, rest) ← next? cs
  let (mark, rest) ← next? rest
  let after := rest.dropWhile isIgnored
  if Path.startsWithDrive (letter :: mark :: after) then some (letter, rest) else none

/-- The path of a file URL below a host, if it does not begin with a drive. -/
def readFilePath (host cs : List Char) : Url :=
  match drive? cs with
  | some (letter, rest) => readPath "file" (some []) ['/', letter, ':'] rest
  | none => readPath "file" (some host) ['/'] cs

/-- The host of a file URL, read from after its slashes. This machine itself is not named. -/
def readFileWithHost (cs : List Char) : Except UrlFault Url := do
  let text := cs.takeWhile fun c => !endsAuthority true c
  let rest := cs.drop text.length
  if (drive? text).isSome then return readFilePath [] cs
  let text := significant text
  let host ← if text.isEmpty then pure [] else Host.special text
  if host.isEmpty || host = "localhost".toList then return readPath "file" (some []) [] rest
  match next? rest with
  | some (c, after) => return readFilePath host (if isSlash c then after else rest)
  | none => return readFilePath host []

def readFile (cs : List Char) : Except UrlFault Url :=
  match next? cs with
  | some (a, rest) =>
    if isSlash a then
      match next? rest with
      | some (b, rest) =>
        if isSlash b then readFileWithHost rest else .ok (readPath "file" (some []) [] cs)
      | none => .ok (readPath "file" (some []) [] cs)
    else .ok (readFilePath [] cs)
  | none => .ok (readFilePath [] [])

/-- A URL without a host and without segments. -/
def readOpaque (scheme : String) (cs : List Char) : Url :=
  let path := cs.takeWhile fun c => c != '?' && c != '#'
  let u : Url :=
    { scheme, authority := none, path := encode EncodeSet.controls (significant path)
      hasSegments := false }
  readTail u (cs.drop path.length)

/-- A URL whose scheme is not special. -/
def readOther (scheme : String) (cs : List Char) : Except UrlFault Url :=
  match next? cs with
  | some ('/', rest) =>
    match next? rest with
    | some ('/', rest) => readWithAuthority scheme rest
    | _ => .ok (readPath scheme none ['/'] rest)
  | _ => .ok (readOpaque scheme cs)

def parse (s : String) : Except UrlFault Url :=
  match readScheme (trimmed s) with
  | none => .error .noBase
  | some (scheme, rest) =>
    if isFile scheme then readFile rest
    else if isSpecial scheme then
      readWithAuthority scheme (rest.dropWhile fun c => isSlash c || isIgnored c)
    else readOther scheme rest

end RemoteSql.Url
