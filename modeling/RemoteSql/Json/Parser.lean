import RemoteSql.Json.Text
import RemoteSql.Json.Value

/-!
# Reading JSON

The grammar is the strict one. Arrays and objects may be nested `maxDepth` deep, which is what the
recursion runs on: `value depth` reads a value whose brackets nest at most `depth` deep. Every
reader takes the octets that remain and gives back a result with the octets after it. A number may
also be written as an object whose one member, under a reserved name, is its literal as a string.
-/

namespace RemoteSql.Json

/-- White space between tokens: space, tab, line feed and carriage return. -/
def isSpace (b : UInt8) : Bool := b == 0x20 || b == 0x09 || b == 0x0A || b == 0x0D

def skipSpace (bs : Bytes) : Bytes := bs.dropWhile isSpace

/-- How deep arrays and objects may be nested. -/
def maxDepth : Nat := 127

def digits (bs : Bytes) : List Char × Bytes :=
  ((bs.takeWhile Ascii.isDigit).map fun b => Char.ofNat b.toNat, bs.dropWhile Ascii.isDigit)

/-- The whole part of a number: a zero alone, or digits that do not begin with zero. -/
def wholePart (bs : Bytes) : Option (List Char × Bytes) :=
  match bs with
  | Ascii.zero :: rest => some (['0'], rest)
  | _ => match digits bs with
    | ([], _) => none
    | (ds, rest) => some (ds, rest)

/-- The part of a number after the point, with the point; nothing when there is no point. -/
def fractionPart : Bytes → Option (List Char × Bytes)
  | Ascii.point :: rest => match digits rest with
    | ([], _) => none
    | (ds, rest) => some ('.' :: ds, rest)
  | bs => some ([], bs)

/-- The exponent of a number, spelt with a small `e` and a sign; nothing when there is none. -/
def exponentPart : Bytes → Option (List Char × Bytes)
  | [] => some ([], [])
  | e :: rest =>
    if e = 0x65 ∨ e = 0x45 then
      let (sign, rest) := match rest with
        | Ascii.minus :: rest => ('-', rest)
        | Ascii.plus :: rest => ('+', rest)
        | _ => ('+', rest)
      match digits rest with
      | ([], _) => none
      | (ds, rest) => some ('e' :: sign :: ds, rest)
    else some ([], e :: rest)

/-- A number without its sign. -/
def magnitude (bs : Bytes) : Option (List Char × Bytes) := do
  let (whole, bs) ← wholePart bs
  let (fraction, bs) ← fractionPart bs
  let (exponent, bs) ← exponentPart bs
  return (whole ++ fraction ++ exponent, bs)

def numberLiteral : Bytes → Option (String × Bytes)
  | Ascii.minus :: rest => (magnitude rest).map fun (cs, bs) => (String.ofList ('-' :: cs), bs)
  | bs => (magnitude bs).map fun (cs, bs) => (String.ofList cs, bs)

/-- The literal that octets write, all of them. -/
def wholeLiteral (bs : Bytes) : Option String :=
  match numberLiteral bs with
  | some (literal, []) => some literal
  | _ => none

/-- What follows a word that must stand at the head. -/
def afterWord : Bytes → Bytes → Option Bytes
  | [], bs => some bs
  | w :: ws, b :: bs => if w = b then afterWord ws bs else none
  | _ :: _, [] => none

/-- The octets after `rue`, `alse` and `ull`, the words less their first letters. -/
def afterTrue (bs : Bytes) : Option Bytes := afterWord [0x72, 0x75, 0x65] bs
def afterFalse (bs : Bytes) : Option Bytes := afterWord [0x61, 0x6C, 0x73, 0x65] bs
def afterNull (bs : Bytes) : Option Bytes := afterWord [0x75, 0x6C, 0x6C] bs

section Sequence

variable {α : Type}

/-- Items separated by commas up to the closing bracket, at least one, with those read so far in
reverse. There are no more items than there are octets in the first argument, which is only
counted. -/
def itemsFrom (item : Bytes → Option (α × Bytes)) (close : UInt8) :
    Bytes → Bytes → List α → Option (List α × Bytes)
  | [], _, _ => none
  | _ :: bound, bs, done =>
    match item bs with
    | none => none
    | some (a, bs) =>
      match skipSpace bs with
      | [] => none
      | b :: rest =>
        if b = Ascii.comma then itemsFrom item close bound rest (a :: done)
        else if b = close then some ((a :: done).reverse, rest)
        else none

/-- Items separated by commas up to the closing bracket. Each takes at least one octet, so the
octets that remain bound their number. -/
def items (item : Bytes → Option (α × Bytes)) (close : UInt8) (bs : Bytes) :
    Option (List α × Bytes) :=
  match skipSpace bs with
  | [] => none
  | b :: rest => if b = close then some ([], rest) else itemsFrom item close bs bs []

end Sequence

/-- A member of an object, its value read by `value`. -/
def member {α : Type} (value : Bytes → Option (α × Bytes)) (bs : Bytes) :
    Option ((String × α) × Bytes) :=
  match skipSpace bs with
  | Ascii.quote :: rest => do
    let (name, rest) ← text rest
    match skipSpace rest with
    | Ascii.colon :: rest =>
      let (v, rest) ← value rest
      return ((name, v), rest)
    | _ => none
  | _ => none

/-- The name under which an object holds the literal of a number. -/
def numberName : String := "$serde_json::private::Number"

/-- What members in the order in which they are written make up: an object, or a number if the
first has the reserved name, which then has to stand alone. -/
def ofMembers? : List (String × Json) → Option Json
  | [] => some (.object [])
  | (name, v) :: rest =>
    if name = numberName then
      match v, rest with
      | .string literal, [] => (wholeLiteral (Utf8.encode literal)).map .number
      | _, _ => none
    else some (.object (SortedMap.ofList ((name, v) :: rest)))

/-- A value whose brackets nest at most `depth` deep. -/
def value : Nat → Bytes → Option (Json × Bytes)
  | depth, bs =>
    match skipSpace bs with
    | [] => none
    | b :: rest =>
      if b = Ascii.quote then (text rest).map fun (s, rest) => (.string s, rest)
      else if b = Ascii.openBracket then
        match depth with
        | 0 => none
        | depth + 1 =>
          (items (value depth) Ascii.closeBracket rest).map fun (vs, rest) => (.array vs, rest)
      else if b = Ascii.openBrace then
        match depth with
        | 0 => none
        | depth + 1 => (items (member (value depth)) Ascii.closeBrace rest).bind
            fun (ms, rest) => (ofMembers? ms).map fun v => (v, rest)
      else if b = Ascii.lowerT then (afterTrue rest).map fun rest => (.bool true, rest)
      else if b = Ascii.lowerF then (afterFalse rest).map fun rest => (.bool false, rest)
      else if b = Ascii.lowerN then (afterNull rest).map fun rest => (.null, rest)
      else (numberLiteral (b :: rest)).map fun (literal, rest) => (.number literal, rest)

def parse? (bs : Bytes) : Option Json :=
  match value maxDepth bs with
  | none => none
  | some (v, rest) => if skipSpace rest = [] then some v else none

def parseNumber? (bs : Bytes) : Option String :=
  match numberLiteral (skipSpace bs) with
  | some (literal, rest) => if skipSpace rest = [] then some literal else none
  | none => none

def parseText? (bs : Bytes) : Option String :=
  match skipSpace bs with
  | Ascii.quote :: rest =>
    match text rest with
    | none => none
    | some (s, rest) => if skipSpace rest = [] then some s else none
  | _ => none

/-- Whether a value shows its own end, as strings, arrays and objects do. -/
def isSelfDelimited (bs : Bytes) : Bool :=
  match bs with
  | [] => false
  | b :: _ => b == Ascii.quote || b == Ascii.openBracket || b == Ascii.openBrace

/-- Octets that may follow a number or a word. -/
def endsWord (b : UInt8) : Bool :=
  isSpace b || b == Ascii.quote || b == Ascii.openBracket || b == Ascii.closeBracket ||
  b == Ascii.openBrace || b == Ascii.closeBrace || b == Ascii.comma || b == Ascii.colon

/-- What stands at the head of a run of values. -/
inductive Lead
  | nothing
  | malformed
  | value (v : Json)

/-- The first value of a run of values; what follows it need not be JSON. -/
def lead (bs : Bytes) : Lead :=
  let bs := skipSpace bs
  if bs.isEmpty then .nothing
  else
    match value maxDepth bs with
    | none => .malformed
    | some (v, rest) =>
      if isSelfDelimited bs || rest.head?.all endsWord then .value v else .malformed

end RemoteSql.Json
