import Paymaster.Proofs.Calendar.Gregorian
/-!
# Dates in machine integers

Days are counted in signed words of 64 bits, years in signed words of 32 bits and all that
lies inside an era in unsigned words of 32 bits. Every step is checked against its type
here, and no check fails on the way to a date whose year fits.
-/
namespace Paymaster.CivilDate

/-- A value that its type does not hold. -/
structure OutOfRange where
  value : Int

def within (low high value : Int) : Except OutOfRange Int :=
  if low ≤ value ∧ value < high then .ok value else .error ⟨value⟩

def int64 : Int → Except OutOfRange Int :=
  within (-2 ^ 63) (2 ^ 63)

def int32 : Int → Except OutOfRange Int :=
  within (-2 ^ 31) (2 ^ 31)

def word32 : Int → Except OutOfRange Int :=
  within 0 (2 ^ 32)

/-- The era that a day lies in and its day of the era; days before year zero round down. -/
def eraWithin (days : Int) : Except OutOfRange (Int × Int) := do
  let shifted ← int64 (days + epochOffset)
  let dividend ← if 0 ≤ shifted then pure shifted else int64 (shifted - (eraDays - 1))
  let era ← int64 (dividend.tdiv eraDays)
  let start ← int64 (era * eraDays)
  let rest ← int64 (shifted - start)
  let dayOfEra ← word32 rest
  return (era, dayOfEra)

def yearOfEraWithin (dayOfEra : Int) : Except OutOfRange Int := do
  let fourth ← word32 (dayOfEra - dayOfEra / 1460)
  let century ← word32 (fourth + dayOfEra / 36524)
  let days ← word32 (century - dayOfEra / 146096)
  return days / 365

def marchYearWithin (era yearOfEra : Int) : Except OutOfRange Int := do
  let inside ← int32 yearOfEra
  let era ← int32 era
  let start ← int32 (era * 400)
  int32 (inside + start)

def dayOfYearWithin (dayOfEra yearOfEra : Int) : Except OutOfRange Int := do
  let common ← word32 (365 * yearOfEra)
  let fourth ← word32 (common + yearOfEra / 4)
  let before ← word32 (fourth - yearOfEra / 100)
  word32 (dayOfEra - before)

def monthIndexWithin (dayOfYear : Int) : Except OutOfRange Int := do
  let product ← word32 (5 * dayOfYear)
  let sum ← word32 (product + 2)
  return sum / 153

def dayWithin (dayOfYear index : Int) : Except OutOfRange Int := do
  let product ← word32 (153 * index)
  let sum ← word32 (product + 2)
  let rest ← word32 (dayOfYear - sum / 5)
  word32 (rest + 1)

def monthWithin (index : Int) : Except OutOfRange Int :=
  if index < 10 then word32 (index + 3) else word32 (index - 9)

/-- The year, month and day of a date, each step checked against its type. -/
def ofDaysWithin (days : Int) : Except OutOfRange (Int × Int × Int) := do
  let days ← int64 days
  let (era, dayOfEra) ← eraWithin days
  let yearOfEra ← yearOfEraWithin dayOfEra
  let marchYear ← marchYearWithin era yearOfEra
  let dayOfYear ← dayOfYearWithin dayOfEra yearOfEra
  let index ← monthIndexWithin dayOfYear
  let day ← dayWithin dayOfYear index
  let month ← monthWithin index
  let year ← int32 (marchYear + if month ≤ 2 then 1 else 0)
  return (year, month, day)

section Steps

variable {value : Int}

private theorem within_eq_ok {low high : Int} (h : low ≤ value ∧ value < high) :
    within low high value = .ok value :=
  if_pos h

private theorem int64_eq_ok (h : -2 ^ 63 ≤ value ∧ value < 2 ^ 63) : int64 value = .ok value :=
  within_eq_ok h

private theorem int32_eq_ok (h : -2 ^ 31 ≤ value ∧ value < 2 ^ 31) : int32 value = .ok value :=
  within_eq_ok h

private theorem word32_eq_ok (h : 0 ≤ value ∧ value < 2 ^ 32) : word32 value = .ok value :=
  within_eq_ok h

private theorem ok_bind {α β : Type} (a : α) (next : α → Except OutOfRange β) :
    (Except.ok a >>= next) = next a :=
  rfl

end Steps

private theorem eraWithin_eq {days : Nat} (h : days + epochOffset < 2 ^ 63) :
    eraWithin days = .ok (((days + epochOffset) / eraDays : Nat),
      ((days + epochOffset) % eraDays : Nat)) := by
  rw [eraWithin, epochOffset, eraDays] at *
  simp only [Nat.cast_ofNat]
  rw [int64_eq_ok (by omega), ok_bind, if_pos (by omega), pure_bind,
    Int.tdiv_eq_ediv_of_nonneg (by omega), int64_eq_ok (by omega), ok_bind,
    int64_eq_ok (by omega), ok_bind, int64_eq_ok (by omega), ok_bind, word32_eq_ok (by omega),
    ok_bind]
  have hrest : (days : Int) + 719468 - (days + 719468) / 146097 * 146097 =
      (days + 719468) % 146097 := by omega
  rw [hrest]
  rfl

private theorem yearOfEraWithin_eq {dayOfEra : Nat} (h : dayOfEra < eraDays) :
    yearOfEraWithin dayOfEra = .ok (yearOfEra dayOfEra) := by
  rw [eraDays] at h
  rw [yearOfEraWithin, yearOfEra, word32_eq_ok (by omega), ok_bind, word32_eq_ok (by omega),
    ok_bind, word32_eq_ok (by omega), ok_bind]
  have hdays : (dayOfEra : Int) - dayOfEra / 1460 + dayOfEra / 36524 - dayOfEra / 146096 =
      (dayOfEra - dayOfEra / 1460 + dayOfEra / 36524 - dayOfEra / 146096 : Nat) := by omega
  rw [hdays]
  rfl

private theorem marchYearWithin_eq {era year : Nat} (h : year + era * 400 < 2 ^ 31) :
    marchYearWithin era year = .ok (year + era * 400 : Nat) := by
  rw [marchYearWithin, int32_eq_ok (by omega), ok_bind, int32_eq_ok (by omega), ok_bind,
    int32_eq_ok (by omega), ok_bind, int32_eq_ok (by omega)]
  rfl

private theorem dayOfYearWithin_eq {year day : Nat} (hyear : year < 400) (hday : day < 366) :
    dayOfYearWithin (daysBeforeYear year + day : Nat) year = .ok day := by
  rw [dayOfYearWithin, daysBeforeYear, word32_eq_ok (by omega), ok_bind, word32_eq_ok (by omega),
    ok_bind, word32_eq_ok (by omega), ok_bind, word32_eq_ok (by omega)]
  congr 1
  omega

private theorem monthIndexWithin_eq {day : Nat} (h : day < 366) :
    monthIndexWithin day = .ok (monthIndex day) := by
  rw [monthIndexWithin, monthIndex, word32_eq_ok (by omega), ok_bind, word32_eq_ok (by omega),
    ok_bind]
  rfl

private theorem dayWithin_eq {day index : Nat} (hday : day < 366) (h : daysBeforeMonth index ≤ day) :
    dayWithin day index = .ok (day - daysBeforeMonth index + 1 : Nat) := by
  rw [daysBeforeMonth] at *
  rw [dayWithin, word32_eq_ok (by omega), ok_bind, word32_eq_ok (by omega), ok_bind,
    word32_eq_ok (by omega), ok_bind, word32_eq_ok (by omega)]
  congr 1
  omega

private theorem monthWithin_eq {index : Nat} (h : index < 12) :
    monthWithin index = .ok (if index < 10 then index + 3 else index - 9 : Nat) := by
  rw [monthWithin]
  by_cases hspring : index < 10
  · rw [if_pos (by omega), if_pos hspring, word32_eq_ok (by omega)]
    rfl
  · rw [if_neg (by omega), if_neg hspring, word32_eq_ok (by omega)]
    congr 1
    omega

private theorem dayNumber_lt {date : CivilDate} (h : date.IsValid) (hlow : 1 ≤ date.year)
    (hyear : date.year < 2 ^ 31) : date.dayNumber < 2 ^ 63 := by
  have hday := dayOfMarchYear_lt_leap h hlow
  have hmarch := marchYear_le date.year date.month
  rw [dayNumber]
  simp only [daysBeforeYear]
  omega

/-- Every step stays within its type on the way to a date whose year fits. -/
theorem ofDaysWithin_eq {days : Nat} (hyear : (ofDays days).year < 2 ^ 31) :
    ofDaysWithin days =
      .ok ((ofDays days).year, (ofDays days).month, (ofDays days).day) := by
  have hvalid := isValid_ofDays days
  have hlow : 1 ≤ (ofDays days).year := Nat.le_trans (by decide) (le_year_ofDays days)
  have hnumber := dayNumber_ofDays days
  generalize ofDays days = date at *
  have hbound : days + epochOffset < 2 ^ 63 := hnumber ▸ dayNumber_lt hvalid hlow hyear
  have hinside : (days + epochOffset) % eraDays < eraDays := Nat.mod_lt _ (by decide)
  have hcentury : marchYear date.year date.month % 400 < 400 := Nat.mod_lt _ (by decide)
  have hmarch := marchYear_le date.year date.month
  have hday := dayOfMarchYear_lt_leap hvalid hlow
  have hindex := marchIndex_lt hvalid.one_le_month hvalid.month_le
  have hmonth := month_of_marchIndex hvalid.one_le_month hvalid.month_le
  have hfound : monthIndex (dayOfMarchYear date.month date.day) = marchIndex date.month :=
    monthIndex_eq (day_lt_of_valid hvalid)
  have hbefore : daysBeforeMonth (marchIndex date.month) ≤ dayOfMarchYear date.month date.day :=
    Nat.le_add_right _ _
  obtain ⟨hera, hdayOfEra⟩ := era_of_dayNumber hvalid hlow hnumber
  rw [hdayOfEra] at hinside
  rw [ofDaysWithin, int64_eq_ok (by omega), ok_bind, eraWithin_eq hbound, ok_bind, hera, hdayOfEra]
  dsimp only
  rw [yearOfEraWithin_eq hinside, ok_bind, yearOfEra_of_valid hvalid hlow,
    marchYearWithin_eq (by omega), ok_bind, dayOfYearWithin_eq hcentury hday, ok_bind,
    monthIndexWithin_eq hday, ok_bind, hfound, dayWithin_eq hday hbefore, ok_bind,
    day_of_dayOfMarchYear hvalid.one_le_day, monthWithin_eq hindex, ok_bind, hmonth,
    Nat.mod_add_div']
  have hlast : (marchYear date.year date.month : Int) + (if (date.month : Int) ≤ 2 then 1 else 0) =
      date.year := by
    have hsum := @year_of_marchYear date.year date.month hlow
    split <;> split at hsum <;> omega
  rw [hlast, int32_eq_ok (by omega)]
  rfl

end Paymaster.CivilDate
