import RemoteSql.Bytes

/-!
# Bits of an octet string

Within an octet the lowest bit comes first. Reading stops in two ways: the octets ran out, so that
more of them might still mend it, or they are wrong.
-/

namespace RemoteSql.Gzip

/-- Why reading stopped. -/
inductive Stop
  | short
  | wrong
  deriving DecidableEq, Repr

/-- The bits still to be read: octets, and how many bits of the first of them are spent. -/
structure Bits where
  octets : Bytes
  spent : Nat := 0

namespace Bits

def next (s : Bits) : Except Stop (Nat × Bits) :=
  match s.octets with
  | [] => .error .short
  | b :: rest =>
    let bit := b.toNat >>> s.spent % 2
    if s.spent < 7 then .ok (bit, ⟨b :: rest, s.spent + 1⟩) else .ok (bit, ⟨rest, 0⟩)

/-- A number of the given width, its lowest bit first. -/
def take : Nat → Bits → Except Stop (Nat × Bits)
  | 0, s => .ok (0, s)
  | width + 1, s =>
    match s.next with
    | .error e => .error e
    | .ok (bit, s) =>
      match take width s with
      | .error e => .error e
      | .ok (n, s) => .ok (bit + 2 * n, s)

/-- The octets from the next boundary on. -/
def align (s : Bits) : Bytes := if s.spent = 0 then s.octets else s.octets.drop 1

/-- How many bits there are. -/
def count (s : Bits) : Nat := 8 * s.octets.length - s.spent

end Bits

end RemoteSql.Gzip
