import Mathlib.Algebra.Field.Rat
import Mathlib.Tactic.Ring
import Paymaster.Amount
import Paymaster.Proofs.Text.Numerals
/-!
# Amounts as decimal numbers

An amount is written in whole coins, a point and eight digits, with a minus sign exactly if
it is negative. Read as a decimal number, the text is the amount in coins without any loss,
so no two amounts share a text.
-/
namespace Paymaster

namespace Text

/-- The number that digits stand for with a point between them. -/
def pointValue (whole fraction : List Char) : ℚ :=
  decimalValue whole + decimalValue fraction / 10 ^ fraction.length

/-- Reads digits on both sides of a point and nothing else. -/
def readPoint? (cs : List Char) : Option ℚ :=
  let whole := cs.takeWhile Char.isDigit
  match cs.dropWhile Char.isDigit with
  | '.' :: fraction =>
    if whole ≠ [] ∧ fraction ≠ [] ∧ fraction.all Char.isDigit = true then
      some (pointValue whole fraction)
    else none
  | _ => none

/-- Reads a decimal number, negative behind a minus sign. -/
def readDecimal? : List Char → Option ℚ
  | '-' :: cs => (readPoint? cs).map fun number => -number
  | cs => readPoint? cs

private theorem readPoint?_eq {whole fraction : List Char} (hwhole : IsNumeral whole)
    (hne : fraction ≠ []) (hfraction : ∀ c ∈ fraction, c.isDigit = true) :
    readPoint? (whole ++ '.' :: fraction) = some (pointValue whole fraction) := by
  have hpoint : ('.' : Char).isDigit = false := rfl
  rw [readPoint?, takeWhile_digits hwhole.isDigit hpoint, dropWhile_digits hwhole.isDigit hpoint]
  exact if_pos ⟨hwhole.ne_nil, hne, List.all_eq_true.mpr hfraction⟩

/-- A numeral does not begin with a sign, so a text that begins with one is read as it is. -/
private theorem readDecimal?_numeral {whole : List Char} (hwhole : IsNumeral whole)
    (rest : List Char) :
    readDecimal? (whole ++ rest) = readPoint? (whole ++ rest) := by
  cases whole with
  | nil => exact absurd rfl hwhole.ne_nil
  | cons digit digits =>
    rw [List.cons_append, readDecimal?]
    intro cs hminus
    have hdigit := hwhole.isDigit digit List.mem_cons_self
    rw [(List.cons.inj hminus).1] at hdigit
    cases hdigit

end Text

namespace Amount

theorem unitsPerCoin : coin.toInt.natAbs = 100000000 := rfl

def sign (amount : Amount) : List Char :=
  if amount < 0 then ['-'] else []

def wholeDigits (amount : Amount) : List Char :=
  Text.numeral (amount.toInt.natAbs / 100000000)

def fractionDigits (amount : Amount) : List Char :=
  (Text.padded 8 (amount.toInt.natAbs % 100000000)).toList

theorem toList_format (amount : Amount) :
    (format amount).toList =
      sign amount ++ (wholeDigits amount ++ '.' :: fractionDigits amount) := by
  have hsign : (if amount < 0 then "-" else "").toList = sign amount := by
    rw [sign]
    split <;> rfl
  have hpoint : ".".toList = ['.'] := rfl
  simp only [format, unitsPerCoin, String.toList_append, hsign, hpoint, Text.toList_padded_one,
    List.append_assoc, List.singleton_append]
  rfl

private theorem isNumeral_wholeDigits (amount : Amount) : Text.IsNumeral (wholeDigits amount) :=
  Text.isNumeral_numeral _

private theorem length_fractionDigits (amount : Amount) : (fractionDigits amount).length = 8 :=
  Text.length_padded (by decide) (Nat.mod_lt _ (by decide))

private theorem isDigit_of_mem_fractionDigits {amount : Amount} :
    ∀ c ∈ fractionDigits amount, c.isDigit = true :=
  fun _ hc => Text.isDigit_of_mem_padded hc

private theorem pointValue_mul (amount : Amount) :
    Text.pointValue (wholeDigits amount) (fractionDigits amount) * 100000000 =
      amount.toInt.natAbs := by
  have hunits := Nat.div_add_mod amount.toInt.natAbs 100000000
  rw [Text.pointValue, length_fractionDigits, wholeDigits, fractionDigits,
    Text.decimalValue_numeral, Text.decimalValue_padded]
  generalize amount.toInt.natAbs / 100000000 = coins at *
  generalize amount.toInt.natAbs % 100000000 = rest at *
  rw [← hunits]
  push_cast
  ring

private theorem readPoint?_digits (amount : Amount) :
    Text.readPoint? (wholeDigits amount ++ '.' :: fractionDigits amount) =
      some (Text.pointValue (wholeDigits amount) (fractionDigits amount)) := by
  have hne : fractionDigits amount ≠ [] :=
    List.ne_nil_of_length_pos (by rw [length_fractionDigits]; decide)
  exact Text.readPoint?_eq (isNumeral_wholeDigits amount) hne isDigit_of_mem_fractionDigits

theorem readDecimal?_format (amount : Amount) :
    ∃ coins, Text.readDecimal? (format amount).toList = some coins ∧
      coins * 100000000 = amount.toInt := by
  have hcoins := pointValue_mul amount
  have hlt : amount < 0 ↔ amount.toInt < 0 := Int64.lt_iff_toInt_lt
  rw [toList_format, sign]
  by_cases hnegative : amount < 0
  · have habs : (amount.toInt.natAbs : ℤ) = -amount.toInt := by
      have := hlt.mp hnegative
      omega
    refine ⟨-Text.pointValue (wholeDigits amount) (fractionDigits amount), ?_, ?_⟩
    · rw [if_pos hnegative, List.singleton_append, Text.readDecimal?, readPoint?_digits]
      rfl
    · rw [neg_mul, hcoins, ← Int.cast_natCast, habs, Int.cast_neg, neg_neg]
  · have habs : (amount.toInt.natAbs : ℤ) = amount.toInt := by
      have := mt hlt.mpr hnegative
      omega
    refine ⟨Text.pointValue (wholeDigits amount) (fractionDigits amount), ?_, ?_⟩
    · rw [if_neg hnegative, List.nil_append,
        Text.readDecimal?_numeral (isNumeral_wholeDigits amount), readPoint?_digits]
    · rw [hcoins, ← Int.cast_natCast, habs]

theorem format_injective : Function.Injective format := by
  intro left right h
  obtain ⟨coins, hcoins, hleft⟩ := readDecimal?_format left
  obtain ⟨others, hothers, hright⟩ := readDecimal?_format right
  have hsame : coins = others := by
    rw [h, hothers] at hcoins
    exact (Option.some.inj hcoins).symm
  have hunits : (left.toInt : ℚ) = right.toInt := by
    rw [← hleft, ← hright, hsame]
  exact Int64.toInt_inj.mp (Int.cast_injective hunits)

/-- The text of an amount is a minus sign if the amount is negative, a numeral, a point and eight
digits. Read as a decimal number, it is the amount in coins, exactly; so amounts have different
texts. -/
theorem format_exact :
    (∀ amount : Amount, ∃ whole fraction,
      (format amount).toList = (if amount < 0 then ['-'] else []) ++ (whole ++ '.' :: fraction) ∧
      Text.IsNumeral whole ∧ fraction.length = 8 ∧ (∀ c ∈ fraction, c.isDigit = true) ∧
      ∃ coins, Text.readDecimal? (format amount).toList = some coins ∧
        coins * 100000000 = amount.toInt) ∧
    Function.Injective format := by
  refine ⟨fun amount => ?_, format_injective⟩
  exact ⟨wholeDigits amount, fractionDigits amount, toList_format amount,
    isNumeral_wholeDigits amount, length_fractionDigits amount, isDigit_of_mem_fractionDigits,
    readDecimal?_format amount⟩

example : format Int64.minValue = "-92233720368.54775808" := by decide +kernel

example : format (-1) = "-0.00000001" := by decide +kernel

end Amount

end Paymaster
