/-!
# Calendar dates

Days since the start of 1970 are turned into a date by counting in eras of four
hundred years that begin on the first of March, so that a leap day comes last.
-/
namespace Paymaster

structure CivilDate where
  year : Nat
  month : Nat
  day : Nat
deriving DecidableEq

namespace CivilDate

def eraDays : Nat := 146097

/-- Days from the first of March of year zero to the start of 1970. -/
def epochOffset : Nat := 719468

/-- The year of an era that a day of it lies in. -/
def yearOfEra (dayOfEra : Nat) : Nat :=
  (dayOfEra - dayOfEra / 1460 + dayOfEra / 36524 - dayOfEra / 146096) / 365

def daysBeforeYear (year : Nat) : Nat :=
  365 * year + year / 4 - year / 100

/-- The month that a day of a year lies in, March being month zero. -/
def monthIndex (dayOfYear : Nat) : Nat :=
  (5 * dayOfYear + 2) / 153

def daysBeforeMonth (month : Nat) : Nat :=
  (153 * month + 2) / 5

/-- The date of a day, counted from the first of January 1970. -/
def ofDays (days : Nat) : CivilDate :=
  let era := (days + epochOffset) / eraDays
  let dayOfEra := (days + epochOffset) % eraDays
  let year := yearOfEra dayOfEra
  let dayOfYear := dayOfEra - daysBeforeYear year
  let index := monthIndex dayOfYear
  let month := if index < 10 then index + 3 else index - 9
  { year := year + era * 400 + (if month ≤ 2 then 1 else 0)
    month
    day := dayOfYear - daysBeforeMonth index + 1 }

end CivilDate

end Paymaster
