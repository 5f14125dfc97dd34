import RemoteSql.Text.CaseTable
import RemoteSql.Text.CodePoints

/-!
# Lower case

Each character is replaced by its lower case, which for one letter is two characters. A capital
sigma becomes a final one at the end of a word: some character with case stands before it and none
after it, characters that are passed over apart.
-/

namespace RemoteSql.Text

def isCased (c : Char) : Bool := inRanges casedRanges c.toNat

def isCaseIgnorable (c : Char) : Bool := inRanges caseIgnorableRanges c.toNat

/-- Whether a run covers a code point. -/
def CapitalRun.covers (r : CapitalRun) (n : Nat) : Bool :=
  r.first ≤ n && n ≤ r.last && (n - r.first) % r.step == 0

def lowerChar (c : Char) : List Char :=
  if c.toNat = 0x130 then ['i', Char.ofNat 0x307]
  else
    match capitalRuns.find? (·.covers c.toNat) with
    | some r => [Char.ofNat (r.lower + (c.toNat - r.first))]
    | none => [c]

/-- Whether the first character that is not passed over has case. -/
def meetsCased (cs : List Char) : Bool := ((cs.dropWhile isCaseIgnorable).head?).any isCased

/-- The lower case of a text, given what stands before it in reverse. -/
def lowerFrom : List Char → List Char → List Char
  | _, [] => []
  | before, c :: rest =>
    let lower := if c.toNat = 0x3A3 then
        [Char.ofNat (if meetsCased before && !meetsCased rest then 0x3C2 else 0x3C3)]
      else lowerChar c
    lower ++ lowerFrom (c :: before) rest

def toLowercase (s : String) : String := String.ofList (lowerFrom [] s.toList)

end RemoteSql.Text
