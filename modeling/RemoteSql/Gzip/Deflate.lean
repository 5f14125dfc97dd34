import RemoteSql.Gzip.Code

/-!
# Deflate

A stream is a run of blocks. A block holds its octets as they are, or as words of two codes, which
are fixed or stand before it: one for octets and lengths, one for distances. A length and a
distance stand for octets already there; before the first octet of a stream there are zeros.
-/

namespace RemoteSql.Gzip

/-- The base and the number of further bits of each length symbol, from 257 on. -/
def lengthTable : Array (Nat × Nat) := #[
  (3, 0), (4, 0), (5, 0), (6, 0), (7, 0), (8, 0), (9, 0), (10, 0), (11, 1), (13, 1), (15, 1),
  (17, 1), (19, 2), (23, 2), (27, 2), (31, 2), (35, 3), (43, 3), (51, 3), (59, 3), (67, 4),
  (83, 4), (99, 4), (115, 4), (131, 5), (163, 5), (195, 5), (227, 5), (258, 0)]

/-- The base and the number of further bits of each distance symbol. -/
def distanceTable : Array (Nat × Nat) := #[
  (1, 0), (2, 0), (3, 0), (4, 0), (5, 1), (7, 1), (9, 2), (13, 2), (17, 3), (25, 3), (33, 4),
  (49, 4), (65, 5), (97, 5), (129, 6), (193, 6), (257, 7), (385, 7), (513, 8), (769, 8),
  (1025, 9), (1537, 9), (2049, 10), (3073, 10), (4097, 11), (6145, 11), (8193, 12), (12289, 12),
  (16385, 13), (24577, 13)]

/-- The number that a table symbol and the bits after it stand for. -/
def readEntry (table : Array (Nat × Nat)) (symbol : Nat) (s : Bits) : Except Stop (Nat × Bits) :=
  match table[symbol]? with
  | none => .error .wrong
  | some (base, width) => (s.take width).map fun (n, s) => (base + n, s)

/-- The octet a distance back, which is zero before the first one. -/
def octetBack (distance : Nat) (out : Array UInt8) : UInt8 :=
  if out.size < distance then 0 else out.getD (out.size - distance) 0

def copyBack (distance : Nat) : Nat → Array UInt8 → Array UInt8
  | 0, out => out
  | n + 1, out => copyBack distance n (out.push (octetBack distance out))

def endOfBlock : Nat := 256

/-- The words of a block up to its end. Each takes at least one bit, so the bits bound them. -/
def readWords (literals distances : Code) :
    Nat → Bits → Array UInt8 → Except Stop (Array UInt8 × Bits)
  | 0, _, _ => .error .short
  | fuel + 1, s, out => do
    let (symbol, s) ← literals.read s
    if symbol < endOfBlock then readWords literals distances fuel s (out.push symbol.toUInt8)
    else if symbol = endOfBlock then return (out, s)
    else
      let (length, s) ← readEntry lengthTable (symbol - 257) s
      let (symbol, s) ← distances.read s
      let (distance, s) ← readEntry distanceTable symbol s
      readWords literals distances fuel s (copyBack distance length out)

/-- The lengths of the fixed code for octets and lengths. -/
def fixedLiteralLengths : List Nat :=
  List.replicate 144 8 ++ List.replicate 112 9 ++ List.replicate 24 7 ++ List.replicate 8 8

/-- The lengths of the fixed code for distances. -/
def fixedDistanceLengths : List Nat := List.replicate 32 5

/-- The order in which the lengths of the code for lengths are given. -/
def lengthOrder : List Nat := [16, 17, 18, 0, 8, 7, 9, 6, 10, 5, 11, 4, 12, 3, 13, 2, 14, 1, 15]

/-- Three-bit numbers, as many as asked. -/
def readTriples : Nat → Bits → Except Stop (List Nat × Bits)
  | 0, s => .ok ([], s)
  | n + 1, s => do
    let (k, s) ← s.take 3
    let (ks, s) ← readTriples n s
    return (k :: ks, s)

/-- Lengths written in the code for lengths, until `total` of them are there, with those read so
far in reverse. Symbols from 16 on repeat the last length or zero. -/
def readLengths (code : Code) (total : Nat) :
    Nat → Bits → List Nat → Except Stop (List Nat × Bits)
  | 0, _, _ => .error .short
  | fuel + 1, s, done =>
    if total ≤ done.length then
      if done.length = total then .ok (done.reverse, s) else .error .wrong
    else do
      let (symbol, s) ← code.read s
      if symbol < 16 then readLengths code total fuel s (symbol :: done)
      else if symbol = 16 then
        match done with
        | [] => throw .wrong
        | last :: _ =>
          let (n, s) ← s.take 2
          readLengths code total fuel s (List.replicate (3 + n) last ++ done)
      else if symbol = 17 then
        let (n, s) ← s.take 3
        readLengths code total fuel s (List.replicate (3 + n) 0 ++ done)
      else
        let (n, s) ← s.take 7
        readLengths code total fuel s (List.replicate (11 + n) 0 ++ done)

def readCodes (s : Bits) : Except Stop ((Code × Code) × Bits) := do
  let (n, s) ← s.take 5
  let literalCount := 257 + n
  let (n, s) ← s.take 5
  let distanceCount := 1 + n
  let (n, s) ← s.take 4
  if 286 < literalCount ∨ 30 < distanceCount then throw .wrong
  let (triples, s) ← readTriples (4 + n) s
  let given := lengthOrder.zip triples
  let code ← Code.ofLengths false ((List.range 19).map fun i => (given.lookup i).getD 0)
  let total := literalCount + distanceCount
  let (lengths, s) ← readLengths code total (total + 1) s []
  let literals ← Code.ofLengths true (lengths.take literalCount)
  let distances ← Code.ofLengths true (lengths.drop literalCount)
  return ((literals, distances), s)

def readStored (s : Bits) (out : Array UInt8) : Except Stop (Array UInt8 × Bits) :=
  match s.align with
  | a :: b :: c :: d :: rest =>
    let size := a.toNat + 256 * b.toNat
    if size + (c.toNat + 256 * d.toNat) ≠ 0xFFFF then .error .wrong
    else if rest.length < size then .error .short
    else .ok (out ++ rest.take size, ⟨rest.drop size, 0⟩)
  | _ => .error .short

/-- One block, and whether it is the last. -/
def readBlock (s : Bits) (out : Array UInt8) : Except Stop (Bool × Array UInt8 × Bits) := do
  let (last, s) ← s.take 1
  let (kind, s) ← s.take 2
  let (out, s) ← match kind with
    | 0 => readStored s out
    | 1 => do
      let literals ← Code.ofLengths false fixedLiteralLengths
      let distances ← Code.ofLengths false fixedDistanceLengths
      readWords literals distances (s.count + 1) s out
    | 2 => do
      let ((literals, distances), s) ← readCodes s
      readWords literals distances (s.count + 1) s out
    | _ => throw .wrong
  return (last = 1, out, s)

/-- Blocks up to the last. Each takes at least three bits, so the bits bound them. -/
def readBlocks : Nat → Bits → Array UInt8 → Except Stop (Array UInt8 × Bits)
  | 0, _, _ => .error .short
  | fuel + 1, s, out => do
    let (last, out, s) ← readBlock s out
    if last then return (out, s) else readBlocks fuel s out

def inflate (bs : Bytes) : Except Stop (Array UInt8 × Bytes) := do
  let (out, s) ← readBlocks (8 * bs.length + 1) ⟨bs, 0⟩ #[]
  return (out, s.align)

end RemoteSql.Gzip
