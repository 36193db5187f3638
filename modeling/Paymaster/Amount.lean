import Paymaster.Text.Decimal
/-!
# Amounts and heights

Amounts are 64-bit counts of the smallest coin unit, heights 32-bit block
positions. Sums that could leave the range are taken as integers and clamped.
-/
namespace Paymaster

abbrev Height := Int32

abbrev Amount := Int64

namespace Amount

def coin : Amount := 100000000

def cent : Amount := 1000000

/-- The largest amount that a grant may have. -/
def maxMoney : Amount := 21000000 * coin

def inRange (amount : Amount) : Bool :=
  0 ≤ amount && amount ≤ maxMoney

def clamp (i : Int) : Amount :=
  Int64.ofIntClamp i

theorem toInt_clamp (i : Int) :
    (clamp i).toInt = max (-9223372036854775808) (min 9223372036854775807 i) := by
  have least : Int64.minValue.toInt = -9223372036854775808 := by decide
  have most : Int64.maxValue.toInt = 9223372036854775807 := by decide
  by_cases above : Int64.minValue.toInt ≤ i
  · by_cases below : i ≤ Int64.maxValue.toInt
    · rw [clamp, Int64.toInt_ofIntClamp above below]
      omega
    · simp only [clamp, Int64.ofIntClamp, above, below, dite_true, dite_false]
      omega
  · simp only [clamp, Int64.ofIntClamp, above, dite_false]
    omega

def saturatingAdd (a b : Amount) : Amount :=
  clamp (a.toInt + b.toInt)

def saturatingSub (a b : Amount) : Amount :=
  clamp (a.toInt - b.toInt)

/-- The share `rate / whole` of an amount, toward zero, clamped to the range of amounts. -/
def share (amount : Amount) (rate whole : Int) : Amount :=
  clamp ((amount.toInt * rate).tdiv whole)

/-- An amount in coins: a sign if negative, whole coins, a point and eight digits. -/
def format (amount : Amount) : String :=
  let units := amount.toInt.natAbs
  let unitsPerCoin := coin.toInt.natAbs
  let sign := if amount < 0 then "-" else ""
  sign ++ Text.padded 1 (units / unitsPerCoin) ++ "." ++ Text.padded 8 (units % unitsPerCoin)

end Amount

namespace Height

def clamp (i : Int) : Height :=
  Int32.ofIntClamp i

theorem toInt_clamp (i : Int) : (clamp i).toInt = max (-2147483648) (min 2147483647 i) := by
  have least : Int32.minValue.toInt = -2147483648 := by decide
  have most : Int32.maxValue.toInt = 2147483647 := by decide
  by_cases above : Int32.minValue.toInt ≤ i
  · by_cases below : i ≤ Int32.maxValue.toInt
    · rw [clamp, Int32.toInt_ofIntClamp above below]
      omega
    · simp only [clamp, Int32.ofIntClamp, above, below, dite_true, dite_false]
      omega
  · simp only [clamp, Int32.ofIntClamp, above, dite_false]
    omega

/-- The height below, stopping at the smallest one. -/
def pred (height : Height) : Height :=
  clamp (height.toInt - 1)

/-- The height above, stopping at the largest one. -/
def succ (height : Height) : Height :=
  clamp (height.toInt + 1)

/-- The heights from `start` up to and without `stop`. -/
def range (start stop : Height) : List Height :=
  (List.range (stop.toInt - start.toInt).toNat).map fun i : Nat => Int32.ofInt (start.toInt + i)

end Height

end Paymaster
