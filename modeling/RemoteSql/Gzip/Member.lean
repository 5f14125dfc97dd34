import RemoteSql.Gzip.Deflate

/-!
# Gzip members

A member is a header, a deflate stream, and the checksum and size of what the stream holds. What
comes after the first member is not looked at.
-/

namespace RemoteSql.Gzip

/-- One bit of the checksum's division. -/
def crcShift (crc : UInt32) : UInt32 :=
  if crc % 2 = 1 then (0xEDB88320 : UInt32) ^^^ (crc >>> 1) else crc >>> 1

def crcOctet (crc : UInt32) (b : UInt8) : UInt32 :=
  Nat.repeat crcShift 8 (crc ^^^ b.toUInt32)

def crc32 (bs : Bytes) : UInt32 := bs.foldl crcOctet 0xFFFFFFFF ^^^ 0xFFFFFFFF

/-- The number that octets write, the lowest first. -/
def littleEndian : Bytes → Nat
  | [] => 0
  | b :: rest => b.toNat + 256 * littleEndian rest

/-- A number of the given count of octets. -/
def readNumber (n : Nat) (bs : Bytes) : Except Stop (Nat × Bytes) :=
  if bs.length < n then .error .short else .ok (littleEndian (bs.take n), bs.drop n)

/-- The octets after the given count of them. -/
def skipOctets (n : Nat) (bs : Bytes) : Except Stop Bytes :=
  if bs.length < n then .error .short else .ok (bs.drop n)

/-- The octets after a text that a zero octet ends. -/
def skipText (bs : Bytes) : Except Stop Bytes :=
  let text := bs.takeWhile (· != 0)
  if 65535 < text.length then .error .wrong
  else
    match bs.dropWhile (· != 0) with
    | [] => .error .short
    | _ :: rest => .ok rest

def hasFlag (flags mask : Nat) : Bool := flags &&& mask != 0

def skipHeader (bs : Bytes) : Except Stop Bytes := do
  let (magic, rest) ← readNumber 2 bs
  let (method, rest) ← readNumber 1 rest
  let (flags, rest) ← readNumber 1 rest
  let rest ← skipOctets 6 rest
  if magic ≠ 0x8B1F ∨ method ≠ 8 ∨ hasFlag flags 0xE0 then throw .wrong
  let rest ← if hasFlag flags 4 then do
      let (size, rest) ← readNumber 2 rest
      skipOctets size rest
    else pure rest
  let rest ← if hasFlag flags 8 then skipText rest else pure rest
  let rest ← if hasFlag flags 16 then skipText rest else pure rest
  if hasFlag flags 2 then do
    let (sum, after) ← readNumber 2 rest
    let header := bs.take (bs.length - rest.length)
    if sum ≠ (crc32 header).toNat % 65536 then throw .wrong
    return after
  else return rest

def member (bs : Bytes) : Except Stop Bytes := do
  let rest ← skipHeader bs
  let (out, rest) ← inflate rest
  let held := out.toList
  let (sum, rest) ← readNumber 4 rest
  let (size, _) ← readNumber 4 rest
  if sum ≠ (crc32 held).toNat ∨ size ≠ held.length % UInt32.size then throw .wrong
  return held

/-- Whether octets begin as a member does. -/
def isGzip : Bytes → Bool
  | a :: b :: _ => a == 0x1F && b == 0x8B
  | _ => false

end RemoteSql.Gzip
