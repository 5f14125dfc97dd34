import RemoteSql.Url.Percent

/-!
# Paths

A path is kept as it is written, each segment after a slash. A segment that is a dot or two dots,
perhaps encoded, is worked off when it is closed: one dot adds nothing and two take the segment
before away, unless it names a drive: a letter and a colon or a bar.
-/

namespace RemoteSql.Url

/-- The characters that have no place in a URL and are dropped from it. -/
def isIgnored (c : Char) : Bool := c == '\t' || c == '\n' || c == '\r'

namespace Path

/-- A segment with each encoded dot written plainly. -/
def plainDots : List Char → List Char
  | '%' :: '2' :: 'e' :: rest => '.' :: plainDots rest
  | '%' :: '2' :: 'E' :: rest => '.' :: plainDots rest
  | c :: rest => c :: plainDots rest
  | [] => []

def isSingleDot (segment : List Char) : Bool := plainDots segment == ['.']

def isDoubleDot (segment : List Char) : Bool := plainDots segment == ['.', '.']

def endsWithSlash (path : List Char) : Bool := path.getLast? == some '/'

def withSlash (path : List Char) : List Char := if endsWithSlash path then path else path ++ ['/']

/-- A path up to its last slash. -/
def upToSlash (path : List Char) : List Char := (path.reverse.dropWhile (· != '/')).reverse

/-- Whether a character ends a segment. -/
def endsSegment (c : Char) : Bool := c == '/' || c == '\\' || c == '?' || c == '#'

/-- Whether a text begins with a segment that names a drive. -/
def startsWithDrive : List Char → Bool
  | letter :: mark :: rest =>
    letter.isAlpha && (mark == ':' || mark == '|') && rest.head?.all endsSegment
  | _ => false

/-- A path without the slash at its end, unless no slash is before it or a drive. -/
def dropSlash (path : List Char) : List Char :=
  let before := path.dropLast
  if endsWithSlash path && before.contains '/' &&
      !startsWithDrive (path.drop (upToSlash before).length) then before
  else path

/-- The path after one more segment, behind which a slash follows or the path ends. -/
def close (path segment : List Char) (slash : Bool) : List Char :=
  if isDoubleDot segment then
    let shorter := upToSlash (dropSlash path)
    if slash then withSlash shorter else shorter
  else if isSingleDot segment then withSlash path
  else if slash then path ++ segment ++ ['/'] else path ++ segment

/-- Whether a path is a drive and what follows goes on with it, though something that does not
count stands between them. -/
def cutsDrive (path rest : List Char) : Bool :=
  match path with
  | ['/', letter, ':'] =>
    letter.isAlpha && (rest.dropWhile isIgnored).head?.any fun c => !endsSegment c
  | _ => false

/-- Reads segments up to the query or the fragment. A backslash counts as a slash in a special URL;
in a file URL a drive is cut off from what goes on with it. What has been read of the current
segment is in reverse. -/
def read (special file : Bool) : List Char → List Char → List Char → List Char × List Char
  | path, segment, [] => (close path segment.reverse false, [])
  | path, segment, c :: rest =>
    if isIgnored c then
      let cut := file && cutsDrive (path ++ segment.reverse) rest
      read special file path (if cut then '/' :: segment else segment) rest
    else if c = '?' ∨ c = '#' then (close path segment.reverse false, c :: rest)
    else if c = '/' ∨ (special ∧ c = '\\') then
      read special file (close path segment.reverse true) [] rest
    else read special file path ((encodeChar EncodeSet.path c).reverse ++ segment) rest

/-- A path with a single slash at its head. -/
def withSingleRoot (path : List Char) : List Char := '/' :: path.dropWhile (· == '/')

/-- A path without an empty last segment, except for the root. -/
def popIfEmpty (path : List Char) : List Char :=
  if 1 < path.length && endsWithSlash path then path.dropLast else path

/-- The path with a segment added, which may hold any text. One or two plain dots add nothing. -/
def push (special : Bool) (path : List Char) (segment : List Char) : List Char :=
  if segment = ['.'] ∨ segment = ['.', '.'] then path
  else
    let set := if special then EncodeSet.specialSegment else EncodeSet.segment
    let path := if path.length = 1 then path else path ++ ['/']
    close path (encode set (segment.filter fun c => !isIgnored c)) false

end Path

end RemoteSql.Url
