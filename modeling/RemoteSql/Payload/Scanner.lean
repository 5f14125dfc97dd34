import RemoteSql.Error
import RemoteSql.Json.Parser

/-!
# Scanning a result payload

A payload is an object whose `query_rows` may be far larger than all else in it. The scanner steps
over each value by brackets and quotes alone. A value is stepped over with a store or without one;
with one, the octets stepped over are added to it, in reverse. Offsets count octets from the start.
-/

namespace RemoteSql

namespace Payload

/-- What remains of a payload, and where it begins. -/
structure Rest where
  offset : Nat
  octets : Bytes
  deriving DecidableEq, Repr

abbrev Store := Option Bytes

def Store.keep (out : Store) (b : UInt8) : Store := out.map (b :: ·)

def malformed (offset : Nat) (fault : PayloadFault) : Error :=
  .protocol (.malformedPayload offset fault)

def skipBlank (offset : Nat) : Bytes → Rest
  | [] => ⟨offset, []⟩
  | b :: bs => if Ascii.isBlank b then skipBlank (offset + 1) bs else ⟨offset, b :: bs⟩

def Rest.skipBlank (s : Rest) : Rest := Payload.skipBlank s.offset s.octets

/-- Steps over one given octet and the white space before it. -/
def Rest.expect (s : Rest) (b : UInt8) (fault : PayloadFault) : Except Error Rest :=
  match s.skipBlank with
  | ⟨offset, c :: rest⟩ => if c = b then .ok ⟨offset + 1, rest⟩ else .error (malformed offset fault)
  | ⟨offset, []⟩ => .error (malformed offset fault)

/-- Steps through a string to its closing quote. An octet after a backslash closes nothing. -/
def copyText (escaped : Bool) (offset : Nat) (out : Store) : Bytes → Except Error (Store × Rest)
  | [] => .error (malformed offset .more)
  | b :: rest =>
    if escaped then copyText false (offset + 1) (out.keep b) rest
    else if b = Ascii.backslash then copyText true (offset + 1) (out.keep b) rest
    else if b = Ascii.quote then .ok (out.keep b, ⟨offset + 1, rest⟩)
    else copyText false (offset + 1) (out.keep b) rest

/-- Steps over a string, the opening quote included. -/
def copyString (s : Rest) (out : Store) : Except Error (Store × Rest) :=
  match s.octets with
  | [] => .error (malformed s.offset .more)
  | b :: rest => copyText false (s.offset + 1) (out.keep b) rest

/-- Where the scanner stands among brackets and quotes. -/
structure Nesting where
  /-- How many brackets are open. -/
  depth : Nat := 0
  inString : Bool := false
  /-- Whether the last octet of a string was a backslash that hides the next one. -/
  escaped : Bool := false
  deriving DecidableEq, Repr

/-- What an octet does to the nesting; `none` when it closes the last open bracket. The scanner
begins a walk at an opening bracket alone, so no closing one ever meets the depth 0, below which
there is no depth to go to; the walk would end there as well. -/
def Nesting.step (n : Nesting) (b : UInt8) : Option Nesting :=
  if n.inString then
    if n.escaped then some { n with escaped := false }
    else if b = Ascii.backslash then some { n with escaped := true }
    else if b = Ascii.quote then some { n with inString := false }
    else some n
  else if b = Ascii.quote then some { n with inString := true }
  else if b = Ascii.openBrace ∨ b = Ascii.openBracket then some { n with depth := n.depth + 1 }
  else if b = Ascii.closeBrace ∨ b = Ascii.closeBracket then
    if n.depth ≤ 1 then none else some { n with depth := n.depth - 1 }
  else some n

/-- Steps to the bracket that closes the last open one. Brackets of the two shapes are not told
apart. -/
def copyBrackets (n : Nesting) (offset : Nat) (out : Store) : Bytes → Except Error (Store × Rest)
  | [] => .error (malformed offset .more)
  | b :: rest =>
    match n.step b with
    | none => .ok (out.keep b, ⟨offset + 1, rest⟩)
    | some n => copyBrackets n (offset + 1) (out.keep b) rest

/-- Steps over an array or an object, the opening bracket included. -/
def copyNested (s : Rest) (out : Store) : Except Error (Store × Rest) :=
  copyBrackets {} s.offset out s.octets

/-- Whether an octet ends a number or a word. -/
def endsScalar (b : UInt8) : Bool :=
  Ascii.isBlank b || b == Ascii.comma || b == Ascii.closeBrace || b == Ascii.closeBracket

/-- Steps over octets up to one that ends a number or a word. -/
def copyScalar (offset : Nat) (out : Store) : Bytes → Store × Rest
  | [] => (out, ⟨offset, []⟩)
  | b :: rest =>
    if endsScalar b then (out, ⟨offset, b :: rest⟩)
    else copyScalar (offset + 1) (out.keep b) rest

/-- Steps over a value and the white space before it. -/
def copyValue (s : Rest) (out : Store) : Except Error (Store × Rest) :=
  let s := s.skipBlank
  match s.octets with
  | [] => .error (malformed s.offset .more)
  | b :: _ =>
    if b = Ascii.quote then copyString s out
    else if b = Ascii.openBrace ∨ b = Ascii.openBracket then copyNested s out
    else
      let (out, s') := copyScalar s.offset out s.octets
      if s'.offset = s.offset then .error (malformed s.offset .value) else .ok (out, s')

end Payload

end RemoteSql
