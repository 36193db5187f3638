import Mathlib.Logic.Function.Iterate
import Mathlib.Order.Monotone.Basic
import Mathlib.Tactic.IntervalCases
import Paymaster.Diagnostics.Calendar
/-!
# The Gregorian calendar

The calendar goes from day to day by the lengths of its months and the rule for leap
years. Counting days by eras of four hundred years gives the same dates: a date is found
again from the number of its day, and the next day has the next number.
-/
namespace Paymaster.CivilDate

/-- Every fourth year has a leap day, and of the full centuries every fourth one. -/
def IsLeap (year : Nat) : Prop :=
  year % 4 = 0 ∧ (year % 100 = 0 → year % 400 = 0)

instance (year : Nat) : Decidable (IsLeap year) :=
  inferInstanceAs (Decidable (year % 4 = 0 ∧ (year % 100 = 0 → year % 400 = 0)))

def yearLength (year : Nat) : Nat :=
  if IsLeap year then 366 else 365

def monthLength (year : Nat) : Nat → Nat
  | 2 => if IsLeap year then 29 else 28
  | 4 | 6 | 9 | 11 => 30
  | _ => 31

structure IsValid (date : CivilDate) : Prop where
  one_le_month : 1 ≤ date.month
  month_le : date.month ≤ 12
  one_le_day : 1 ≤ date.day
  day_le : date.day ≤ monthLength date.year date.month

/-- The first of January 1970. -/
def epoch : CivilDate :=
  ⟨1970, 1, 1⟩

/-- The day after, in the same month, in the same year or on the first of January. -/
def next (date : CivilDate) : CivilDate :=
  if date.day < monthLength date.year date.month then ⟨date.year, date.month, date.day + 1⟩
  else if date.month < 12 then ⟨date.year, date.month + 1, 1⟩
  else ⟨date.year + 1, 1, 1⟩

/-- The year that a month belongs to if years begin in March. -/
def marchYear (year month : Nat) : Nat :=
  if month ≤ 2 then year - 1 else year

/-- The place of a month in a year that begins in March. -/
def marchIndex (month : Nat) : Nat :=
  if month ≤ 2 then month + 9 else month - 3

def dayOfMarchYear (month day : Nat) : Nat :=
  daysBeforeMonth (marchIndex month) + (day - 1)

/-- Days from the first of March of year zero to a date. -/
def dayNumber (date : CivilDate) : Nat :=
  let year := marchYear date.year date.month
  daysBeforeYear year + year / 400 + dayOfMarchYear date.month date.day

private theorem one_le_monthLength (year month : Nat) : 1 ≤ monthLength year month := by
  unfold monthLength
  split
  · split <;> decide
  all_goals decide

private theorem daysBeforeMonth_succ (year : Nat) {month : Nat} (hlow : 1 ≤ month)
    (hhigh : month ≤ 12) (hnot : month ≠ 2) :
    daysBeforeMonth (marchIndex month + 1) =
      daysBeforeMonth (marchIndex month) + monthLength year month := by
  interval_cases month
  all_goals first | rfl | exact absurd rfl hnot

private theorem daysBeforeYear_succ (year : Nat) :
    daysBeforeYear (year + 1) + (year + 1) / 400 =
      daysBeforeYear year + year / 400 + yearLength (year + 1) := by
  have hfew : year / 100 ≤ year / 4 := Nat.div_le_div_left (by decide) (by decide)
  rw [daysBeforeYear, daysBeforeYear, yearLength]
  by_cases hfour : (year + 1) % 4 = 0
  · rw [Nat.succ_div_of_mod_eq_zero hfour]
    by_cases hcentury : (year + 1) % 100 = 0
    · rw [Nat.succ_div_of_mod_eq_zero hcentury]
      by_cases hera : (year + 1) % 400 = 0
      · rw [Nat.succ_div_of_mod_eq_zero hera, if_pos ⟨hfour, fun _ => hera⟩]
        omega
      · rw [Nat.succ_div_of_mod_ne_zero hera, if_neg fun h => hera (h.2 hcentury)]
        omega
    · have hera : (year + 1) % 400 ≠ 0 := by omega
      rw [Nat.succ_div_of_mod_ne_zero hcentury, Nat.succ_div_of_mod_ne_zero hera,
        if_pos ⟨hfour, fun h => absurd h hcentury⟩]
      omega
  · have hcentury : (year + 1) % 100 ≠ 0 := by omega
    have hera : (year + 1) % 400 ≠ 0 := by omega
    rw [Nat.succ_div_of_mod_ne_zero hfour, Nat.succ_div_of_mod_ne_zero hcentury,
      Nat.succ_div_of_mod_ne_zero hera, if_neg fun h => hfour h.1]
    omega

theorem next_cases {date : CivilDate} (h : date.IsValid) :
    (date.day < monthLength date.year date.month ∧
      date.next = ⟨date.year, date.month, date.day + 1⟩) ∨
    (date.day = monthLength date.year date.month ∧ date.month < 12 ∧
      date.next = ⟨date.year, date.month + 1, 1⟩) ∨
    (date.day = 31 ∧ date.month = 12 ∧ date.next = ⟨date.year + 1, 1, 1⟩) := by
  have hmonth := h.month_le
  have hday := h.day_le
  rw [next]
  by_cases hinside : date.day < monthLength date.year date.month
  · exact .inl ⟨hinside, if_pos hinside⟩
  · have hlast : date.day = monthLength date.year date.month := by omega
    rw [if_neg hinside]
    by_cases hyear : date.month < 12
    · exact .inr (.inl ⟨hlast, hyear, if_pos hyear⟩)
    · have hdecember : date.month = 12 := by omega
      rw [hdecember] at hlast
      exact .inr (.inr ⟨hlast, hdecember, if_neg hyear⟩)

theorem IsValid.next {date : CivilDate} (h : date.IsValid) : date.next.IsValid := by
  have hmonth := h.one_le_month
  rcases next_cases h with ⟨hday, hnext⟩ | ⟨-, hyear, hnext⟩ | ⟨-, -, hnext⟩
  · rw [hnext]
    exact ⟨h.one_le_month, h.month_le, Nat.le_add_left 1 date.day, hday⟩
  · rw [hnext]
    exact ⟨Nat.le_add_left 1 date.month, hyear, le_rfl, one_le_monthLength _ _⟩
  · rw [hnext]
    exact ⟨le_rfl, Nat.le_add_left 1 11, le_rfl, one_le_monthLength _ _⟩

private theorem year_le_next (date : CivilDate) : date.year ≤ date.next.year := by
  unfold CivilDate.next
  split
  · exact le_rfl
  · split
    · exact le_rfl
    · exact Nat.le_succ _

private theorem daysBeforeMonth_march (year : Nat) :
    yearLength year = daysBeforeMonth 11 + monthLength year 2 := by
  rw [yearLength, monthLength]
  by_cases hleap : IsLeap year
  · rw [if_pos hleap, if_pos hleap]
    rfl
  · rw [if_neg hleap, if_neg hleap]
    rfl

theorem dayNumber_next {date : CivilDate} (h : date.IsValid) (hyear : 1 ≤ date.year) :
    date.next.dayNumber = date.dayNumber + 1 := by
  have hfirst := h.one_le_day
  have hlow := h.one_le_month
  rcases next_cases h with ⟨-, hnext⟩ | ⟨hday, hmonth, hnext⟩ | ⟨hday, hmonth, hnext⟩
  · rw [hnext]
    simp only [dayNumber, dayOfMarchYear]
    omega
  · rw [hnext]
    by_cases hfebruary : date.month = 2
    · obtain ⟨year, hsucc⟩ : ∃ year, date.year = year + 1 := ⟨date.year - 1, by omega⟩
      have hlength := daysBeforeYear_succ year
      rw [daysBeforeMonth_march] at hlength
      rw [hfebruary, hsucc] at hday
      have hnumber : date.dayNumber =
          daysBeforeYear year + year / 400 + (daysBeforeMonth 11 + (date.day - 1)) := by
        simp [dayNumber, dayOfMarchYear, marchYear, marchIndex, hfebruary, hsucc]
      have hnext : dayNumber ⟨date.year, date.month + 1, 1⟩ =
          daysBeforeYear (year + 1) + (year + 1) / 400 := by
        simp [dayNumber, dayOfMarchYear, marchYear, marchIndex, hfebruary, hsucc, daysBeforeMonth]
      omega
    · have hlength := daysBeforeMonth_succ date.year hlow (by omega) hfebruary
      have hindex : marchIndex (date.month + 1) = marchIndex date.month + 1 := by
        unfold marchIndex
        split <;> split <;> omega
      have hsame : marchYear date.year (date.month + 1) = marchYear date.year date.month := by
        unfold marchYear
        split <;> split <;> first | rfl | omega
      simp only [dayNumber, dayOfMarchYear, hsame, hindex]
      omega
  · rw [hnext]
    have hnumber : date.dayNumber = daysBeforeYear date.year + date.year / 400 + (275 + 30) := by
      simp [dayNumber, dayOfMarchYear, marchYear, marchIndex, hmonth, hday, daysBeforeMonth]
    have hnext : dayNumber ⟨date.year + 1, 1, 1⟩ =
        daysBeforeYear date.year + date.year / 400 + 306 := by
      simp [dayNumber, dayOfMarchYear, marchYear, marchIndex, daysBeforeMonth]
    rw [hnumber, hnext]

private theorem monotone_yearOfEra : Monotone yearOfEra := by
  apply monotone_nat_of_le_succ
  intro day
  have hera (day : Nat) : day / 146096 = day / 36524 / 4 := by
    rw [Nat.div_div_eq_div_mul]
  apply Nat.div_le_div_right
  rw [hera, hera]
  omega

private theorem yearOfEra_first_last : ∀ year < 400,
    yearOfEra (daysBeforeYear year) = year ∧
      yearOfEra (daysBeforeYear year + (yearLength (year + 1) - 1)) = year := by
  decide +kernel

/-- A day of a March year is found in that year. -/
private theorem yearOfEra_eq {year day : Nat} (hyear : year < 400)
    (hday : day < yearLength (year + 1)) :
    yearOfEra (daysBeforeYear year + day) = year := by
  obtain ⟨hfirst, hlast⟩ := yearOfEra_first_last year hyear
  apply Nat.le_antisymm
  · calc yearOfEra (daysBeforeYear year + day)
        ≤ yearOfEra (daysBeforeYear year + (yearLength (year + 1) - 1)) :=
          monotone_yearOfEra (by omega)
      _ = year := hlast
  · calc year = yearOfEra (daysBeforeYear year) := hfirst.symm
      _ ≤ yearOfEra (daysBeforeYear year + day) := monotone_yearOfEra (by omega)

private theorem isLeap_mod_iff (year : Nat) : IsLeap (year % 400 + 1) ↔ IsLeap (year + 1) := by
  have hfour : (year % 400 + 1) % 4 = (year + 1) % 4 := by omega
  have hcentury : (year % 400 + 1) % 100 = (year + 1) % 100 := by omega
  have hera : (year % 400 + 1) % 400 = (year + 1) % 400 := by omega
  rw [IsLeap, IsLeap, hfour, hcentury, hera]

private theorem yearLength_mod (year : Nat) :
    yearLength (year % 400 + 1) = yearLength (year + 1) := by
  simp only [yearLength, isLeap_mod_iff]

private theorem daysBeforeYear_eq_era (year : Nat) :
    daysBeforeYear year + year / 400 = year / 400 * eraDays + daysBeforeYear (year % 400) := by
  have hsplit := Nat.div_add_mod year 400
  have hfour : year / 4 = 100 * (year / 400) + year % 400 / 4 := by omega
  have hcentury : year / 100 = 4 * (year / 400) + year % 400 / 100 := by omega
  have hfew : year % 400 / 100 ≤ year % 400 / 4 := Nat.div_le_div_left (by decide) (by decide)
  rw [daysBeforeYear, daysBeforeYear, hfour, hcentury, eraDays]
  omega

private theorem dayOfEra_lt {year day : Nat} (hyear : year < 400)
    (hday : day < yearLength (year + 1)) :
    daysBeforeYear year + day < eraDays := by
  have hlast : ∀ year < 400, daysBeforeYear year + yearLength (year + 1) ≤ eraDays := by
    decide +kernel
  have hbound := hlast year hyear
  omega

theorem monthIndex_eq {index day : Nat}
    (h : day < daysBeforeMonth (index + 1) - daysBeforeMonth index) :
    monthIndex (daysBeforeMonth index + day) = index := by
  unfold monthIndex
  unfold daysBeforeMonth at *
  omega

theorem day_lt_of_valid {date : CivilDate} (h : date.IsValid) :
    date.day - 1 <
      daysBeforeMonth (marchIndex date.month + 1) - daysBeforeMonth (marchIndex date.month) := by
  have hfirst := h.one_le_day
  have hlast := h.day_le
  by_cases hfebruary : date.month = 2
  · have hshort : monthLength date.year 2 ≤ 29 := by
      rw [monthLength]
      split <;> decide
    rw [hfebruary] at hlast ⊢
    have hindex : daysBeforeMonth (marchIndex 2 + 1) - daysBeforeMonth (marchIndex 2) = 30 := rfl
    omega
  · have hlength := daysBeforeMonth_succ date.year h.one_le_month h.month_le hfebruary
    omega

private theorem dayOfMarchYear_lt {date : CivilDate} (h : date.IsValid) (hyear : 1 ≤ date.year) :
    dayOfMarchYear date.month date.day < yearLength (marchYear date.year date.month + 1) := by
  have hfirst := h.one_le_day
  have hlast := h.day_le
  by_cases hfebruary : date.month = 2
  · have hsucc : marchYear date.year 2 + 1 = date.year := Nat.sub_add_cancel hyear
    have hindex : marchIndex 2 = 11 := rfl
    have hlength := daysBeforeMonth_march date.year
    rw [hfebruary] at hlast ⊢
    rw [hsucc, hlength, dayOfMarchYear, hindex]
    omega
  · have hday := day_lt_of_valid h
    have hbefore : daysBeforeMonth (marchIndex date.month + 1) ≤ daysBeforeMonth 11 := by
      have hlow := h.one_le_month
      have hhigh := h.month_le
      have hindex : marchIndex date.month + 1 ≤ 11 := by
        unfold marchIndex
        split <;> omega
      unfold daysBeforeMonth
      omega
    have hshort : daysBeforeMonth 11 < yearLength (marchYear date.year date.month + 1) := by
      rw [yearLength]
      split <;> decide
    rw [dayOfMarchYear]
    omega

theorem dayOfMarchYear_lt_leap {date : CivilDate} (h : date.IsValid) (hyear : 1 ≤ date.year) :
    dayOfMarchYear date.month date.day < 366 := by
  apply Nat.lt_of_lt_of_le (dayOfMarchYear_lt h hyear)
  rw [yearLength]
  split <;> decide

theorem era_of_dayNumber {date : CivilDate} (h : date.IsValid) (hyear : 1 ≤ date.year) {days : Nat}
    (hnumber : date.dayNumber = days + epochOffset) :
    (days + epochOffset) / eraDays = marchYear date.year date.month / 400 ∧
      (days + epochOffset) % eraDays = daysBeforeYear (marchYear date.year date.month % 400) +
        dayOfMarchYear date.month date.day := by
  have hday := dayOfMarchYear_lt h hyear
  rw [dayNumber] at hnumber
  generalize marchYear date.year date.month = march at *
  have hera : march % 400 < 400 := Nat.mod_lt march (by decide)
  rw [← yearLength_mod] at hday
  have hinside := dayOfEra_lt hera hday
  have hsum : days + epochOffset = march / 400 * eraDays +
      (daysBeforeYear (march % 400) + dayOfMarchYear date.month date.day) := by
    rw [← hnumber, daysBeforeYear_eq_era, Nat.add_assoc]
  rw [hsum, Nat.add_comm]
  constructor
  · rw [Nat.add_mul_div_right _ _ (by decide), Nat.div_eq_of_lt hinside, Nat.zero_add]
  · rw [Nat.add_mul_mod_self_right, Nat.mod_eq_of_lt hinside]

theorem yearOfEra_of_valid {date : CivilDate} (h : date.IsValid) (hyear : 1 ≤ date.year) :
    yearOfEra (daysBeforeYear (marchYear date.year date.month % 400) +
      dayOfMarchYear date.month date.day) = marchYear date.year date.month % 400 := by
  have hday := dayOfMarchYear_lt h hyear
  rw [← yearLength_mod] at hday
  exact yearOfEra_eq (Nat.mod_lt _ (by decide)) hday

theorem marchYear_le (year month : Nat) : marchYear year month ≤ year := by
  unfold marchYear
  split
  · exact Nat.sub_le year 1
  · exact le_rfl

theorem marchIndex_lt {month : Nat} (hlow : 1 ≤ month) (hhigh : month ≤ 12) :
    marchIndex month < 12 := by
  unfold marchIndex
  split <;> omega

theorem month_of_marchIndex {month : Nat} (hlow : 1 ≤ month) (hhigh : month ≤ 12) :
    (if marchIndex month < 10 then marchIndex month + 3 else marchIndex month - 9) = month := by
  unfold marchIndex
  split <;> split <;> omega

theorem year_of_marchYear {year month : Nat} (hyear : 1 ≤ year) :
    marchYear year month + (if month ≤ 2 then 1 else 0) = year := by
  unfold marchYear
  split <;> omega

theorem day_of_dayOfMarchYear {month day : Nat} (hday : 1 ≤ day) :
    dayOfMarchYear month day - daysBeforeMonth (marchIndex month) + 1 = day := by
  rw [dayOfMarchYear]
  omega

/-- A date is found again from the number of its day. -/
private theorem ofDays_eq_of_dayNumber {date : CivilDate} (h : date.IsValid) (hyear : 1 ≤ date.year)
    {days : Nat} (hnumber : date.dayNumber = days + epochOffset) : ofDays days = date := by
  obtain ⟨hera, hdayOfEra⟩ := era_of_dayNumber h hyear hnumber
  have hyearOfEra := yearOfEra_of_valid h hyear
  have hindex : monthIndex (dayOfMarchYear date.month date.day) = marchIndex date.month :=
    monthIndex_eq (day_lt_of_valid h)
  have hmonth := month_of_marchIndex h.one_le_month h.month_le
  have hyears : marchYear date.year date.month % 400 + marchYear date.year date.month / 400 * 400 +
      (if date.month ≤ 2 then 1 else 0) = date.year := by
    rw [Nat.mod_add_div']
    exact year_of_marchYear hyear
  simp only [ofDays, hera, hdayOfEra, hyearOfEra, Nat.add_sub_cancel_left, hindex, hmonth, hyears,
    day_of_dayOfMarchYear h.one_le_day]

private theorem epoch_isValid : epoch.IsValid :=
  ⟨by decide, by decide, by decide, by decide⟩

/-- Day after day the calendar stays valid, and the number of the day counts the days. -/
theorem iterate_next_spec (days : Nat) :
    (next^[days] epoch).IsValid ∧ 1970 ≤ (next^[days] epoch).year ∧
      (next^[days] epoch).dayNumber = days + epochOffset := by
  induction days with
  | zero => exact ⟨epoch_isValid, by decide, by decide⟩
  | succ days ih =>
    obtain ⟨hvalid, hyear, hnumber⟩ := ih
    rw [Function.iterate_succ_apply']
    refine ⟨hvalid.next, hyear.trans (year_le_next _), ?_⟩
    rw [dayNumber_next hvalid (by omega), hnumber]
    omega

/-- Counting by eras leads to the date that the calendar reaches day after day. -/
theorem ofDays_eq_iterate (days : Nat) : ofDays days = next^[days] epoch := by
  obtain ⟨hvalid, hyear, hnumber⟩ := iterate_next_spec days
  exact ofDays_eq_of_dayNumber hvalid (by omega) hnumber

theorem ofDays_succ (days : Nat) : ofDays (days + 1) = (ofDays days).next := by
  rw [ofDays_eq_iterate, ofDays_eq_iterate, Function.iterate_succ_apply']

theorem isValid_ofDays (days : Nat) : (ofDays days).IsValid := by
  rw [ofDays_eq_iterate]
  exact (iterate_next_spec days).1

theorem le_year_ofDays (days : Nat) : 1970 ≤ (ofDays days).year := by
  rw [ofDays_eq_iterate]
  exact (iterate_next_spec days).2.1

theorem dayNumber_ofDays (days : Nat) : (ofDays days).dayNumber = days + epochOffset := by
  rw [ofDays_eq_iterate]
  exact (iterate_next_spec days).2.2

end Paymaster.CivilDate
