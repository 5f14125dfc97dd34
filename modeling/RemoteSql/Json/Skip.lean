import RemoteSql.Json.Parser

/-!
# Skipping JSON

A value whose content does not matter is only checked against the grammar: escaped surrogates need
not be paired, and brackets may nest as deep as the text is long.
-/

namespace RemoteSql.Json

/-- What follows the closing quote of a string whose opening quote has been read. -/
def skipText : Bytes → Option Bytes
  | [] => none
  | b :: rest =>
    if b = Ascii.quote then some rest
    else if b = Ascii.backslash then
      match rest with
      | [] => none
      | e :: rest =>
        if e = Ascii.lowerU then
          match rest with
          | h₁ :: h₂ :: h₃ :: h₄ :: rest =>
            if [h₁, h₂, h₃, h₄].all fun h => (Ascii.hexValue? h).isSome then skipText rest else none
          | _ => none
        else if (simpleEscape? e).isSome then skipText rest
        else none
    else if b < 0x20 then none
    else skipText rest

/-- What follows a member of an object, its value skipped by `value`. -/
def skipMember (value : Bytes → Option (Unit × Bytes)) (bs : Bytes) : Option (Unit × Bytes) :=
  match skipSpace bs with
  | Ascii.quote :: rest => do
    match skipSpace (← skipText rest) with
    | Ascii.colon :: rest => value rest
    | _ => none
  | _ => none

def skipWithin : Nat → Bytes → Option (Unit × Bytes)
  | depth, bs =>
    match skipSpace bs with
    | [] => none
    | b :: rest =>
      if b = Ascii.quote then (skipText rest).map fun rest => ((), rest)
      else if b = Ascii.openBracket then
        match depth with
        | 0 => none
        | depth + 1 =>
          (items (skipWithin depth) Ascii.closeBracket rest).map fun (_, rest) => ((), rest)
      else if b = Ascii.openBrace then
        match depth with
        | 0 => none
        | depth + 1 => (items (skipMember (skipWithin depth)) Ascii.closeBrace rest).map
            fun (_, rest) => ((), rest)
      else if b = Ascii.lowerT then (afterTrue rest).map fun rest => ((), rest)
      else if b = Ascii.lowerF then (afterFalse rest).map fun rest => ((), rest)
      else if b = Ascii.lowerN then (afterNull rest).map fun rest => ((), rest)
      else (numberLiteral (b :: rest)).map fun (_, rest) => ((), rest)

/-- The octets of the value at the head, and what follows it. -/
def span (bs : Bytes) : Option (Bytes × Bytes) :=
  (skipWithin bs.length bs).map fun (_, rest) => (bs.take (bs.length - rest.length), rest)

end RemoteSql.Json
