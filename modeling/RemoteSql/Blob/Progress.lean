import RemoteSql.Json.Record

/-!
# Progress of a transfer

A transfer counts octets in 64-bit words. The percentage rounds down and stays below 100 until the
transfer is complete. The wish to cancel outlives the start of a transfer.
-/

namespace RemoteSql

structure Progress where
  transferred : UInt64 := 0
  total : UInt64 := 0
  percent : UInt32 := 0
  cancelled : Bool := false
  deriving DecidableEq, Repr

namespace Progress

def begin (p : Progress) (total : UInt64) : Progress :=
  { p with total, transferred := 0, percent := 0 }

/-- The percentage while a transfer runs. The product of the count and 100 stops at the greatest
word. -/
def share (done total : UInt64) : UInt32 :=
  UInt32.ofNat (min (min (done.toNat * 100) (UInt64.size - 1) / total.toNat) 99)

def record (p : Progress) (count : UInt64) : Progress :=
  let done := p.transferred + count
  { p with
    transferred := done
    percent := if p.total = 0 then p.percent else share done p.total }

def complete (p : Progress) : Progress := { p with percent := 100 }

def cancel (p : Progress) : Progress := { p with cancelled := true }

def reset (p : Progress) : Progress := { p.begin 0 with cancelled := false }

def setPercent (p : Progress) (percent : UInt32) : Progress :=
  { p with percent := min percent 100 }

def ofRecord? (r : Record) : Option Progress := do
  let transferred ← r.field 0 "bytes_transferred" (Json.readUnsigned? 64) none
  let total ← r.field 1 "total_bytes" (Json.readUnsigned? 64) none
  let percent ← r.field 2 "percent" (Json.readUnsigned? 32) none
  let cancelled ← r.field 3 "cancelled" Json.readBool? none
  return {
    transferred := UInt64.ofNat transferred
    total := UInt64.ofNat total
    percent := UInt32.ofNat percent
    cancelled }

def read? (bs : Bytes) : Option Progress := Record.parse? 4 ofRecord? bs

def toJson (p : Progress) : Json :=
  .object [("bytes_transferred", .whole p.transferred.toNat),
    ("total_bytes", .whole p.total.toNat), ("percent", .whole p.percent.toNat),
    ("cancelled", .bool p.cancelled)]

end Progress

end RemoteSql
