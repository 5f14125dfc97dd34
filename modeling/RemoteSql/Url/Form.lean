import RemoteSql.Text.Basic
import RemoteSql.Url.Percent

/-!
# Form encoding

Names and values are joined by `=`, and pairs by `&`. A space becomes a plus sign; letters, digits
and four marks stand for themselves; every other octet is percent encoded. `parse` undoes it.
-/

namespace RemoteSql.Url.Form

/-- The octets that stand for themselves. -/
def isPlain (b : UInt8) : Bool :=
  Ascii.isDigit b || (0x41 ≤ b && b ≤ 0x5A) || (0x61 ≤ b && b ≤ 0x7A) ||
  b == 0x2A || b == 0x2D || b == 0x2E || b == 0x5F

def encodeOctet (b : UInt8) : List Char :=
  if isPlain b then [Char.ofNat b.toNat] else if b = 0x20 then ['+'] else Url.encodeOctet b

def encodePart (s : String) : List Char := (Utf8.encode s).flatMap encodeOctet

def encodePair (p : String × String) : List Char := encodePart p.1 ++ '=' :: encodePart p.2

def encodeChars : List (String × String) → List Char
  | [] => []
  | [p] => encodePair p
  | p :: rest => encodePair p ++ '&' :: encodeChars rest

def encode (ps : List (String × String)) : String := String.ofList (encodeChars ps)

/-- A name or a value as it was before it was encoded. -/
def parsePart (cs : List Char) : String :=
  Utf8.decodeLossy (decode (cs.map fun c => if c = '+' then ' ' else c))

def parsePair (cs : List Char) : String × String :=
  (parsePart (cs.takeWhile (· != '=')), parsePart ((cs.dropWhile (· != '=')).drop 1))

/-- The pairs of a form; empty pieces between ampersands do not count. -/
def parse (s : String) : List (String × String) :=
  ((Text.splitAt '&' s.toList).filter fun part => !part.isEmpty).map parsePair

end RemoteSql.Url.Form
