import Mathlib.Algebra.Group.Nat.Defs
import Mathlib.Data.List.Basic
import Paymaster.Text.Decimal
/-!
# Reading decimal numerals

A numeral has digits only and no zero in front of another digit. A padded one stands for
its number, whatever its width. So numbers that are written with a mark behind each are
read back from the text.
-/
namespace Paymaster.Text

/-- The number that decimal digits stand for. -/
def decimalValue (cs : List Char) : Nat :=
  Nat.ofDigitChars 10 cs 0

/-- Digits without a zero in front of another digit. -/
structure IsNumeral (cs : List Char) : Prop where
  ne_nil : cs ≠ []
  isDigit : ∀ c ∈ cs, c.isDigit = true
  head : cs.head? = some '0' → cs = ['0']

/-- Reads numerals, each with its own mark behind it. -/
def readMarked : List Char → List Char → Option (List Nat)
  | [], [] => some []
  | [], _ :: _ => none
  | mark :: marks, cs =>
    match cs.takeWhile Char.isDigit, cs.dropWhile Char.isDigit with
    | digit :: digits, c :: rest =>
      if c = mark then (readMarked marks rest).map (decimalValue (digit :: digits) :: ·) else none
    | _, _ => none

private theorem isDigit_of_mem_numeral {n : Nat} {c : Char} (h : c ∈ numeral n) : c.isDigit = true :=
  Nat.isDigit_of_mem_toDigits (by decide) (by decide) h

private theorem eq_zero_of_head_numeral {n : Nat} (h : (numeral n).head? = some '0') : n = 0 := by
  induction n using Nat.strongRecOn with
  | ind n ih =>
    by_cases hsmall : n < 10
    · have hdigit : ∀ d < 10, some (Nat.digitChar d) = some '0' → d = 0 := by decide
      rw [numeral, Nat.toDigits_of_lt_base hsmall] at h
      exact hdigit n hsmall h
    · rw [numeral, Nat.toDigits_of_base_le (by decide) (by omega),
        List.head?_append_of_ne_nil _ Nat.toDigits_ne_nil] at h
      have htenth := ih (n / 10) (by omega) h
      omega

theorem isNumeral_numeral (n : Nat) : IsNumeral (numeral n) where
  ne_nil := Nat.toDigits_ne_nil
  isDigit _ hc := isDigit_of_mem_numeral hc
  head h := by
    rw [eq_zero_of_head_numeral h]
    rfl

private theorem toList_padded (width n : Nat) :
    (padded width n).toList = List.replicate (width - (numeral n).length) '0' ++ numeral n :=
  String.toList_ofList

theorem isDigit_of_mem_padded {width n : Nat} {c : Char} (h : c ∈ (padded width n).toList) :
    c.isDigit = true := by
  rw [toList_padded, List.mem_append] at h
  cases h with
  | inl hzero =>
    rw [List.eq_of_mem_replicate hzero]
    rfl
  | inr hdigit => exact isDigit_of_mem_numeral hdigit

private theorem padded_ne_nil (width n : Nat) : (padded width n).toList ≠ [] := by
  rw [toList_padded]
  exact List.append_ne_nil_of_right_ne_nil _ Nat.toDigits_ne_nil

theorem toList_padded_one (n : Nat) : (padded 1 n).toList = numeral n := by
  have hlength : 0 < (numeral n).length := Nat.length_toDigits_pos
  have hfull : 1 - (numeral n).length = 0 := by omega
  rw [toList_padded, hfull, List.replicate_zero, List.nil_append]

theorem length_padded {width n : Nat} (hwidth : 0 < width) (h : n < 10 ^ width) :
    (padded width n).toList.length = width := by
  have hlength : (numeral n).length ≤ width :=
    (Nat.length_toDigits_le_iff (by decide) hwidth).mpr h
  rw [toList_padded, List.length_append, List.length_replicate]
  omega

theorem decimalValue_numeral (n : Nat) : decimalValue (numeral n) = n :=
  Nat.ofDigitChars_ten_toDigits

theorem decimalValue_padded (width n : Nat) : decimalValue (padded width n).toList = n := by
  rw [decimalValue, toList_padded, Nat.ofDigitChars_append, Nat.ofDigitChars_replicate_zero,
    Nat.mul_zero]
  exact decimalValue_numeral n

theorem takeWhile_digits {digits : List Char} (hdigits : ∀ c ∈ digits, c.isDigit = true)
    {mark : Char} (hmark : mark.isDigit = false) (rest : List Char) :
    (digits ++ mark :: rest).takeWhile Char.isDigit = digits := by
  rw [List.takeWhile_append_of_pos hdigits, List.takeWhile_cons_of_neg (by simp [hmark]),
    List.append_nil]

theorem dropWhile_digits {digits : List Char} (hdigits : ∀ c ∈ digits, c.isDigit = true)
    {mark : Char} (hmark : mark.isDigit = false) (rest : List Char) :
    (digits ++ mark :: rest).dropWhile Char.isDigit = mark :: rest := by
  rw [List.dropWhile_append_of_pos hdigits, List.dropWhile_cons_of_neg (by simp [hmark])]

theorem readMarked_padded {mark : Char} (hmark : mark.isDigit = false) (width n : Nat)
    (marks rest : List Char) :
    readMarked (mark :: marks) ((padded width n).toList ++ mark :: rest) =
      (readMarked marks rest).map (n :: ·) := by
  have hdigits : ∀ c ∈ (padded width n).toList, c.isDigit = true :=
    fun c hc => isDigit_of_mem_padded hc
  obtain ⟨digit, digits, hcons⟩ := List.exists_cons_of_ne_nil (padded_ne_nil width n)
  have hvalue := decimalValue_padded width n
  rw [readMarked, takeWhile_digits hdigits hmark, dropWhile_digits hdigits hmark]
  rw [hcons] at hvalue ⊢
  simp only [hvalue, if_true]

end Paymaster.Text
