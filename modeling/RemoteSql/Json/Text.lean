import RemoteSql.Text.Utf8

/-!
# JSON strings

A string is read an octet at a time, up to the quote that closes it, by a machine whose states say
what an escape still lacks. Escapes are turned into UTF-8, and the whole is decoded at the end, so
the octets of an escape and those that stand for themselves meet the same test. Two escaped
surrogates make one character; a lone one is an error.
-/

namespace RemoteSql.Json

/-- Where the reading of a string stands. -/
inductive TextState
  /-- Between two characters. -/
  | plain
  /-- After a backslash. -/
  | escape
  /-- Inside `\u`, with `due` digits to come; `high?` is the first half of a surrogate pair. -/
  | hex (due value : Nat) (high? : Option Nat)
  /-- After the first half of a surrogate pair. -/
  | pair (high : Nat)
  /-- After the first half of a surrogate pair and a backslash. -/
  | pairEscape (high : Nat)
  deriving DecidableEq, Repr

/-- The state and octets after the last digit of an escaped code unit. -/
def codeUnit (unit : Nat) : Option Nat → Option (TextState × Bytes)
  | none =>
    if 0xD800 ≤ unit ∧ unit < 0xDC00 then some (.pair unit, [])
    else if 0xDC00 ≤ unit ∧ unit < 0xE000 then none
    else some (.plain, String.utf8EncodeChar (Char.ofNat unit))
  | some high =>
    if 0xDC00 ≤ unit ∧ unit < 0xE000 then
      let point := 0x10000 + (high - 0xD800) * 0x400 + (unit - 0xDC00)
      some (.plain, String.utf8EncodeChar (Char.ofNat point))
    else none

/-- The octet that a letter after a backslash stands for. -/
def simpleEscape? (b : UInt8) : Option UInt8 :=
  if b = 0x22 then some 0x22        -- quote
  else if b = 0x5C then some 0x5C   -- backslash
  else if b = 0x2F then some 0x2F   -- slash
  else if b = 0x62 then some 0x08   -- backspace
  else if b = 0x66 then some 0x0C   -- form feed
  else if b = 0x6E then some 0x0A   -- line feed
  else if b = 0x72 then some 0x0D   -- carriage return
  else if b = 0x74 then some 0x09   -- tab
  else none

/-- What an octet inside a string does: the next state and the octets it yields. The closing quote
is not met here. -/
def TextState.step : TextState → UInt8 → Option (TextState × Bytes)
  | .plain, b =>
    if b = Ascii.backslash then some (.escape, [])
    else if b < 0x20 then none
    else some (.plain, [b])
  | .escape, b =>
    if b = Ascii.lowerU then some (.hex 4 0 none, [])
    else (simpleEscape? b).map fun c => (.plain, [c])
  | .hex due value high?, b =>
    (Ascii.hexValue? b).bind fun digit =>
      let value := value * 16 + digit
      if due ≤ 1 then codeUnit value high? else some (.hex (due - 1) value high?, [])
  | .pair high, b => if b = Ascii.backslash then some (.pairEscape high, []) else none
  | .pairEscape high, b => if b = Ascii.lowerU then some (.hex 4 0 (some high), []) else none

/-- Reads to the closing quote: the octets yielded, and what follows the quote. -/
def textOctets : TextState → Bytes → Bytes → Option (Bytes × Bytes)
  | _, [], _ => none
  | s, b :: rest, done =>
    if s = .plain ∧ b = Ascii.quote then some (done.reverse, rest)
    else
      match s.step b with
      | none => none
      | some (s, out) => textOctets s rest (out.reverse ++ done)

/-- The text of a string whose opening quote has been read, and what follows it. -/
def text (bs : Bytes) : Option (String × Bytes) :=
  match textOctets .plain bs [] with
  | none => none
  | some (octets, rest) => (Utf8.decode? octets).map fun s => (s, rest)

end RemoteSql.Json
