import RemoteSql.Text.Utf8

/-!
# Percent encoding

A set says which ASCII characters are encoded; every other character outside ASCII is. An encoded
character is written octet by octet, each as a percent sign and two digits in upper case.
-/

namespace RemoteSql.Url

/-- The ASCII characters that are encoded in some part of a URL. -/
abbrev EncodeSet := Char → Bool

namespace EncodeSet

def controls : EncodeSet := fun c => c.toNat < 0x20 || c.toNat == 0x7F

def fragment : EncodeSet := fun c => controls c || " \"<>\x60".toList.contains c

def query : EncodeSet := fun c => controls c || " \"#<>".toList.contains c

def specialQuery : EncodeSet := fun c => query c || c == '\''

def path : EncodeSet := fun c => fragment c || "#?\x7b\x7d".toList.contains c

def userinfo : EncodeSet := fun c => path c || "/:;=@[\\]^|".toList.contains c

/-- One segment of a path, where a slash or a percent sign must not be taken for more than
itself. -/
def segment : EncodeSet := fun c => path c || c == '/' || c == '%'

/-- One segment of the path of a URL in which a backslash counts as a slash. -/
def specialSegment : EncodeSet := fun c => segment c || c == '\\'

end EncodeSet

def upperHex (n : Nat) : Char := (Nat.digitChar (n % 16)).toUpper

/-- An octet as a percent sign and two digits. -/
def encodeOctet (b : UInt8) : List Char := ['%', upperHex (b.toNat / 16), upperHex b.toNat]

/-- A character, encoded if it is in the set or outside ASCII. -/
def encodeChar (set : EncodeSet) (c : Char) : List Char :=
  if c.toNat < 0x80 && !set c then [c] else (String.utf8EncodeChar c).flatMap encodeOctet

def encode (set : EncodeSet) (cs : List Char) : List Char := cs.flatMap (encodeChar set)

def hexDigit? (c : Char) : Option Nat :=
  if c.toNat < 0x80 then Ascii.hexValue? c.toNat.toUInt8 else none

/-- The octets of a text in which a percent sign and two digits stand for an octet. -/
def decode : List Char → Bytes
  | [] => []
  | '%' :: a :: b :: rest =>
    match hexDigit? a, hexDigit? b with
    | some x, some y => (16 * x + y).toUInt8 :: decode rest
    | _, _ => 0x25 :: decode (a :: b :: rest)
  | c :: rest => String.utf8EncodeChar c ++ decode rest

end RemoteSql.Url
