import Paymaster.Diagnostics.Calendar
import Paymaster.Text.Decimal
/-!
# Timestamps

A point in time is counted from the start of 1970. Its timestamp names the date
and the time of day in universal time, down to the millisecond.
-/
namespace Paymaster

structure Instant where
  seconds : Nat
  nanos : Nat
deriving DecidableEq

structure Timestamp where
  date : CivilDate
  hour : Nat
  minute : Nat
  second : Nat
  millisecond : Nat
deriving DecidableEq

/-- The date in digits; the year shows its low 32 bits, signed. -/
def CivilDate.render (date : CivilDate) : String :=
  Text.paddedInt 4 (Int32.ofNat date.year).toInt ++ "-" ++ Text.padded 2 date.month ++ "-" ++
    Text.padded 2 date.day

def Timestamp.render (stamp : Timestamp) : String :=
  stamp.date.render ++ "T" ++ Text.padded 2 stamp.hour ++ ":" ++ Text.padded 2 stamp.minute ++ ":" ++
    Text.padded 2 stamp.second ++ "." ++ Text.padded 3 stamp.millisecond ++ "Z"

namespace Instant

/-- The start of 1970. -/
def epoch : Instant :=
  ⟨0, 0⟩

/-- A clock reading; what lies before 1970 counts as its start. -/
def ofClock (seconds : Int64) (nanos : UInt32) : Instant :=
  if seconds < 0 then epoch else ⟨seconds.toInt.toNat, nanos.toNat⟩

/-- Milliseconds since the start of 1970, stopping at the largest 64-bit count. -/
def milliseconds (instant : Instant) : UInt64 :=
  UInt64.ofNat (min (instant.seconds * 1000 + instant.nanos / 1000000) (UInt64.size - 1))

def timestamp (instant : Instant) : Timestamp :=
  let ofDay := instant.seconds % 86400
  { date := CivilDate.ofDays (instant.seconds / 86400)
    hour := ofDay / 3600
    minute := ofDay % 3600 / 60
    second := ofDay % 60
    millisecond := instant.nanos / 1000000 }

end Instant

end Paymaster
