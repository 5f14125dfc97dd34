import RemoteSql.Bytes

/-!
# UTF-8

Encoding of text, strict decoding, and decoding with replacement. Both decoders are runs of one
machine that reads an octet at a time: between two characters it is ready, inside one it knows the
bits so far, how many continuation octets are due, and the range of the next one. The range of the
second octet is what rules out overlong forms, surrogates and values past U+10FFFF.
-/

namespace RemoteSql.Utf8

def encode (s : String) : Bytes := s.toList.flatMap String.utf8EncodeChar

/-- Where a decoder stands. -/
inductive State
  | ready
  | within (bits : Nat) (due : Nat) (low high : UInt8)
  deriving DecidableEq, Repr

/-- What one octet does to a decoder. -/
inductive Move
  | more (s : State)
  | scalar (c : Char)
  | illFormed
  deriving Repr

def first (b : UInt8) : Move :=
  if b < 0x80 then .scalar (Char.ofNat b.toNat)
  else if b < 0xC2 then .illFormed
  else if b < 0xE0 then .more (.within (b.toNat - 0xC0) 1 0x80 0xBF)
  else if b < 0xF0 then
    .more (.within (b.toNat - 0xE0) 2 (if b = 0xE0 then 0xA0 else 0x80)
      (if b = 0xED then 0x9F else 0xBF))
  else if b < 0xF5 then
    .more (.within (b.toNat - 0xF0) 3 (if b = 0xF0 then 0x90 else 0x80)
      (if b = 0xF4 then 0x8F else 0xBF))
  else .illFormed

def continuation (bits due : Nat) (low high b : UInt8) : Move :=
  if low ≤ b && b ≤ high then
    let bits := bits * 64 + (b.toNat - 0x80)
    if due ≤ 1 then .scalar (Char.ofNat bits) else .more (.within bits (due - 1) 0x80 0xBF)
  else .illFormed

/-- The move from any state. -/
def State.step : State → UInt8 → Move
  | .ready, b => first b
  | .within bits due low high, b => continuation bits due low high b

/-- Strict decoding from a state, with the characters read so far in reverse. -/
def decodeFrom : State → Bytes → List Char → Option (List Char)
  | .ready, [], done => some done.reverse
  | .within .., [], _ => none
  | s, b :: rest, done =>
    match s.step b with
    | .more s => decodeFrom s rest done
    | .scalar c => decodeFrom .ready rest (c :: done)
    | .illFormed => none

/-- The text that a well-formed octet string encodes. -/
def decode? (bs : Bytes) : Option String := (decodeFrom .ready bs []).map String.ofList

/-- The replacement character. -/
def replacement : Char := Char.ofNat 0xFFFD

/-- Decoding with replacement, with the characters read so far in reverse. An ill-formed sequence
ends before the first octet that cannot continue it, and that octet is read afresh. -/
def decodeLossyFrom : State → Bytes → List Char → List Char
  | .ready, [], done => done.reverse
  | .within .., [], done => (replacement :: done).reverse
  | .ready, b :: rest, done =>
    match first b with
    | .more s => decodeLossyFrom s rest done
    | .scalar c => decodeLossyFrom .ready rest (c :: done)
    | .illFormed => decodeLossyFrom .ready rest (replacement :: done)
  | .within bits due low high, b :: rest, done =>
    match continuation bits due low high b with
    | .more s => decodeLossyFrom s rest done
    | .scalar c => decodeLossyFrom .ready rest (c :: done)
    | .illFormed =>
      match first b with
      | .more s => decodeLossyFrom s rest (replacement :: done)
      | .scalar c => decodeLossyFrom .ready rest (c :: replacement :: done)
      | .illFormed => decodeLossyFrom .ready rest (replacement :: replacement :: done)

/-- The text of any octet string, with a replacement character for each ill-formed sequence. -/
def decodeLossy (bs : Bytes) : String := String.ofList (decodeLossyFrom .ready bs [])

end RemoteSql.Utf8
