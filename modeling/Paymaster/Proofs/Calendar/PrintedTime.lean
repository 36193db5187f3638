import Mathlib.Algebra.BigOperators.Intervals
import Paymaster.Diagnostics.Timestamp
import Paymaster.Proofs.Calendar.MachineRange
import Paymaster.Proofs.Text.Numerals
/-!
# The time that a timestamp names

The fields of a timestamp are read back from its text, and the time that they name is
counted in whole years, months and days from the start of 1970. It is the time that the
timestamp was made from, to the millisecond.
-/
namespace Paymaster

namespace CivilDate

/-- Days from the start of 1970 to a date, by the lengths of the years and months between. -/
def daysSinceEpoch (date : CivilDate) : Nat :=
  ∑ year ∈ Finset.Ico 1970 date.year, yearLength year +
    ∑ month ∈ Finset.Ico 1 date.month, monthLength date.year month + (date.day - 1)

private theorem sum_monthLength (year : Nat) :
    ∑ month ∈ Finset.Ico 1 12, monthLength year month + 31 = yearLength year := by
  rw [yearLength]
  by_cases hleap : IsLeap year
  · simp [Finset.sum_Ico_eq_sum_range, Finset.sum_range_succ, monthLength, hleap]
  · simp [Finset.sum_Ico_eq_sum_range, Finset.sum_range_succ, monthLength, hleap]

private theorem daysSinceEpoch_next {date : CivilDate} (h : date.IsValid) (hyear : 1970 ≤ date.year) :
    date.next.daysSinceEpoch = date.daysSinceEpoch + 1 := by
  have hfirst := h.one_le_day
  rcases next_cases h with ⟨-, hnext⟩ | ⟨hday, -, hnext⟩ | ⟨hday, hmonth, hnext⟩
  · rw [hnext]
    simp only [daysSinceEpoch]
    omega
  · rw [hnext]
    simp only [daysSinceEpoch]
    rw [Finset.sum_Ico_succ_top h.one_le_month]
    omega
  · rw [hnext]
    have hmonths := sum_monthLength date.year
    simp only [daysSinceEpoch, hmonth]
    rw [Finset.sum_Ico_succ_top hyear, Finset.Ico_self, Finset.sum_empty]
    omega

theorem daysSinceEpoch_ofDays (days : Nat) : (ofDays days).daysSinceEpoch = days := by
  induction days with
  | zero => rfl
  | succ days ih =>
    rw [ofDays_succ, daysSinceEpoch_next (isValid_ofDays days) (le_year_ofDays days), ih]

private theorem render_of_fits {date : CivilDate} (hyear : date.year < 2 ^ 31) :
    date.render = Text.padded 4 date.year ++ "-" ++ Text.padded 2 date.month ++ "-" ++
      Text.padded 2 date.day := by
  have hsigned : (Int32.ofNat date.year).toInt = date.year := Int32.toInt_ofNat_of_lt hyear
  have hnonneg : ¬ ((date.year : Int) < 0) := by omega
  rw [render, hsigned, Text.paddedInt, if_neg hnonneg, Int.natAbs_natCast]

end CivilDate

namespace Timestamp

/-- The fields of a timestamp, as they stand in its text. -/
def ofText? (text : String) : Option Timestamp :=
  match Text.readMarked ['-', '-', 'T', ':', ':', '.', 'Z'] text.toList with
  | some [year, month, day, hour, minute, second, millisecond] =>
    some ⟨⟨year, month, day⟩, hour, minute, second, millisecond⟩
  | _ => none

/-- Milliseconds from the start of 1970 to the time that a timestamp names. -/
def unixMilliseconds (stamp : Timestamp) : Nat :=
  (((stamp.date.daysSinceEpoch * 24 + stamp.hour) * 60 + stamp.minute) * 60 + stamp.second) * 1000 +
    stamp.millisecond

theorem ofText?_render {stamp : Timestamp} (hyear : stamp.date.year < 2 ^ 31) :
    ofText? stamp.render = some stamp := by
  have hread : Text.readMarked ['-', '-', 'T', ':', ':', '.', 'Z'] stamp.render.toList =
      some [stamp.date.year, stamp.date.month, stamp.date.day, stamp.hour, stamp.minute,
        stamp.second, stamp.millisecond] := by
    have hdash : "-".toList = ['-'] := rfl
    have htime : "T".toList = ['T'] := rfl
    have hcolon : ":".toList = [':'] := rfl
    have hpoint : ".".toList = ['.'] := rfl
    have hzone : "Z".toList = ['Z'] := rfl
    rw [render, CivilDate.render_of_fits hyear]
    simp only [String.toList_append, hdash, htime, hcolon, hpoint, hzone, List.append_assoc,
      List.cons_append, List.nil_append]
    rw [Text.readMarked_padded rfl, Text.readMarked_padded rfl, Text.readMarked_padded rfl,
      Text.readMarked_padded rfl, Text.readMarked_padded rfl, Text.readMarked_padded rfl,
      Text.readMarked_padded rfl]
    rfl
  rw [ofText?, hread]

end Timestamp

namespace Instant

theorem unixMilliseconds_timestamp (instant : Instant) :
    instant.timestamp.unixMilliseconds = instant.seconds * 1000 + instant.nanos / 1000000 := by
  simp only [timestamp, Timestamp.unixMilliseconds, CivilDate.daysSinceEpoch_ofDays]
  omega

private theorem date_timestamp (instant : Instant) :
    instant.timestamp.date = CivilDate.ofDays (instant.seconds / 86400) :=
  rfl

private theorem timeOfDay_timestamp (instant : Instant) :
    instant.timestamp.hour < 24 ∧ instant.timestamp.minute < 60 ∧ instant.timestamp.second < 60 := by
  simp only [timestamp]
  omega

/-- Every day has its date in the Gregorian calendar, found without leaving the types of the
steps, and the text of a timestamp names the time that the timestamp was made from. -/
theorem timestamp_names_time :
    (∀ days : Nat, (CivilDate.ofDays days).year < 2 ^ 31 →
      (CivilDate.ofDays days).IsValid ∧
      CivilDate.ofDays days = CivilDate.next^[days] CivilDate.epoch ∧
      CivilDate.ofDays (days + 1) = (CivilDate.ofDays days).next ∧
      CivilDate.ofDaysWithin days = .ok ((CivilDate.ofDays days).year,
        (CivilDate.ofDays days).month, (CivilDate.ofDays days).day)) ∧
    ∀ instant : Instant, (CivilDate.ofDays (instant.seconds / 86400)).year < 2 ^ 31 →
      ∃ stamp : Timestamp, Timestamp.ofText? instant.timestamp.render = some stamp ∧
        stamp.date.IsValid ∧ stamp.hour < 24 ∧ stamp.minute < 60 ∧ stamp.second < 60 ∧
        stamp.unixMilliseconds = instant.seconds * 1000 + instant.nanos / 1000000 := by
  constructor
  · intro days hyear
    exact ⟨CivilDate.isValid_ofDays days, CivilDate.ofDays_eq_iterate days,
      CivilDate.ofDays_succ days, CivilDate.ofDaysWithin_eq hyear⟩
  · intro instant hyear
    obtain ⟨hhour, hminute, hsecond⟩ := timeOfDay_timestamp instant
    refine ⟨instant.timestamp, Timestamp.ofText?_render hyear, ?_, hhour, hminute, hsecond,
      unixMilliseconds_timestamp instant⟩
    rw [date_timestamp]
    exact CivilDate.isValid_ofDays _

/-- A leap day to its last millisecond. -/
theorem timestamp_names_time_small :
    ((CivilDate.ofDays 19782).year < 2 ^ 31 ∧ (CivilDate.ofDays 19782).IsValid ∧
      (⟨2024, 2, 29⟩ : CivilDate) = CivilDate.next^[19782] CivilDate.epoch ∧
      CivilDate.ofDays (19782 + 1) = (⟨2024, 2, 29⟩ : CivilDate).next ∧
      CivilDate.ofDaysWithin (19782 : Nat) = .ok (2024, 2, 29)) ∧
    (CivilDate.ofDays (1709251199 / 86400)).year < 2 ^ 31 ∧
    ∃ stamp : Timestamp, Timestamp.ofText? "2024-02-29T23:59:59.999Z" = some stamp ∧
      stamp.date.IsValid ∧ stamp.hour < 24 ∧ stamp.minute < 60 ∧ stamp.second < 60 ∧
      stamp.unixMilliseconds = 1709251199 * 1000 + 999999999 / 1000000 := by
  have hyear : (CivilDate.ofDays 19782).year < 2 ^ 31 := by decide
  have htext : (timestamp ⟨1709251199, 999999999⟩).render = "2024-02-29T23:59:59.999Z" := by
    decide +kernel
  exact ⟨⟨hyear, timestamp_names_time.1 19782 hyear⟩, hyear,
    htext ▸ timestamp_names_time.2 ⟨1709251199, 999999999⟩ hyear⟩

end Instant

end Paymaster
