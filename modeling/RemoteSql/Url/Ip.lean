import RemoteSql.Decimal.Whole
import RemoteSql.Text.Basic
import RemoteSql.Url.Percent

/-!
# Numeric hosts

An IPv4 address has up to four parts in decimal, octal or hexadecimal, the last of which fills what
the others leave. An IPv6 address has eight groups of hexadecimal digits, of which one run of zeros
may be left out and the last two may be written as an IPv4 address.
-/

namespace RemoteSql.Url

/-- The number that digits of a base write, if all are digits of it. -/
def ofBase? (base : Nat) (cs : List Char) : Option Nat :=
  cs.foldl (fun n c => n.bind fun n => (hexDigit? c).bind fun d =>
    if d < base then some (n * base + d) else none) (some 0)

namespace Ipv4

/-- One part of an address: hexadecimal after `0x`, octal after a zero, else decimal. -/
def part? (cs : List Char) : Option Nat :=
  match cs with
  | [] => none
  | '0' :: 'x' :: rest => ofBase? 16 rest
  | '0' :: 'X' :: rest => ofBase? 16 rest
  | '0' :: d :: rest => ofBase? 8 (d :: rest)
  | _ => ofBase? 10 cs

/-- The parts of a host; a dot at the end does not count. -/
def parts (host : List Char) : List (List Char) :=
  let ps := Text.splitAt '.' host
  if 1 < ps.length && ps.getLast?.any List.isEmpty then ps.dropLast else ps

/-- Whether a host has to be an IPv4 address: its last part is a number. -/
def endsInNumber (host : List Char) : Bool :=
  match (parts host).getLast? with
  | none => false
  | some last => (!last.isEmpty && last.all Char.isDigit) || (part? last).isSome

/-- The address that parts make up, given the highest first. -/
def ofParts? (ns : List Nat) : Option Nat :=
  match ns.reverse with
  | [] => none
  | last :: before =>
    let upper := before.reverse
    if 3 < upper.length ∨ upper.any (255 < ·) ∨ Nat.pow 256 (4 - upper.length) ≤ last then none
    else some (upper.zipIdx.foldl (fun n p => n + p.1 * Nat.pow 256 (3 - p.2)) last)

def parse? (host : List Char) : Option Nat := ((parts host).mapM part?).bind ofParts?

def render (n : Nat) : List Char :=
  (".".intercalate ([3, 2, 1, 0].map fun i => toString (n / Nat.pow 256 i % 256))).toList

end Ipv4

namespace Ipv6

/-- One of the four decimal numbers at the end of an address, without leading zeros. -/
def quad? (cs : List Char) : Option Nat :=
  match cs with
  | '0' :: _ :: _ => none
  | _ => (Decimal.digits? cs).filter (· ≤ 255)

/-- Four decimal numbers as two groups. -/
def quads? (cs : List Char) : Option (List Nat) :=
  match (Text.splitAt '.' cs).mapM quad? with
  | some [a, b, c, d] => some [a * 256 + b, c * 256 + d]
  | _ => none

/-- The eight groups, when those left out come after the first `gap` of the given ones. -/
def spread? (groups : List Nat) : Option Nat → Option (List Nat)
  | none => if groups.length = 8 then some groups else none
  | some gap =>
    if groups.length ≤ 8 then
      some (groups.take gap ++ List.replicate (8 - groups.length) 0 ++ groups.drop gap)
    else none

/-- Reads groups, those read so far in reverse. A place where groups are left out counts as one. -/
def readGroups : Nat → List Char → List Nat → Option Nat → Option (List Nat)
  | 0, _, _, _ => none
  | _, [], groups, gap => spread? groups.reverse gap
  | fuel + 1, ':' :: rest, groups, gap =>
    if groups.length = 8 ∨ gap.isSome then none
    else readGroups fuel rest (0 :: groups) (some (groups.length + 1))
  | fuel + 1, cs, groups, gap =>
    let digits := (cs.take 4).takeWhile fun c => (hexDigit? c).isSome
    if groups.length = 8 then none
    else
      match ofBase? 16 digits, cs.drop digits.length with
      | some n, [] => spread? (n :: groups).reverse gap
      | some _, '.' :: _ =>
        if digits.isEmpty ∨ 6 < groups.length then none
        else (quads? cs).bind fun two => spread? (groups.reverse ++ two) gap
      | some n, ':' :: rest =>
        if rest.isEmpty then none else readGroups fuel rest (n :: groups) gap
      | _, _ => none

def parse? (cs : List Char) : Option (List Nat) :=
  match cs with
  | ':' :: ':' :: rest => readGroups (cs.length + 1) rest [0] (some 1)
  | ':' :: _ => none
  | [] => none
  | [_] => none
  | _ => readGroups (cs.length + 1) cs [] none

/-- The length of the run of zeros at the head. -/
def zeroRun (groups : List Nat) : Nat := (groups.takeWhile (· == 0)).length

/-- The start and length of the first longest run of two zeros or more. -/
def longestRun (groups : List Nat) : Option (Nat × Nat) :=
  (List.range groups.length).foldl (fun best i =>
    let run := zeroRun (groups.drop i)
    if 2 ≤ run ∧ (best.map Prod.snd).getD 1 < run then some (i, run) else best) none

def groupText (n : Nat) : String := String.ofList (Nat.toDigits 16 n)

def joined (groups : List Nat) : String := ":".intercalate (groups.map groupText)

def render (groups : List Nat) : List Char :=
  match longestRun groups with
  | none => (joined groups).toList
  | some (start, run) =>
    (joined (groups.take start) ++ "::" ++ joined (groups.drop (start + run))).toList

end Ipv6

end RemoteSql.Url
