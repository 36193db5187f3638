import Mathlib.Algebra.Order.Ring.Int
import Paymaster.Payment.Template
/-!
# Totals of outputs

Totals are taken in 64-bit arithmetic, sums of outputs as integers. The two agree
as long as the sum is in the range of amounts, and for the outputs of a reward
split it always is.
-/
namespace Paymaster

namespace Amount

/-- The integer is an amount. -/
def Fits (i : Int) : Prop :=
  -9223372036854775808 ≤ i ∧ i ≤ 9223372036854775807

instance (i : Int) : Decidable (Fits i) :=
  inferInstanceAs (Decidable (_ ∧ _))

theorem fits_toInt (a : Amount) : Fits a.toInt := by
  have hlow := Int64.le_toInt a
  have hhigh := Int64.toInt_lt a
  exact ⟨by omega, by omega⟩

private theorem bmod_of_fits {i : Int} (h : Fits i) : i.bmod (2 ^ 64) = i := by
  obtain ⟨hlow, hhigh⟩ := h
  apply Int.bmod_eq_of_le <;> omega

theorem toInt_sub_of_fits {a b : Amount} (h : Fits (a.toInt - b.toInt)) :
    (a - b).toInt = a.toInt - b.toInt := by
  rw [Int64.toInt_sub, bmod_of_fits h]

end Amount

namespace Output

/-- The values of the outputs, summed as integers. -/
def sum (outputs : List Output) : Int :=
  (outputs.map fun output => output.value.toInt).sum

@[simp] theorem sum_nil : sum [] = 0 := rfl

@[simp] theorem sum_cons (output : Output) (rest : List Output) :
    sum (output :: rest) = output.value.toInt + sum rest := by
  simp [sum]

@[simp] theorem sum_append (left right : List Output) :
    sum (left ++ right) = sum left + sum right := by
  simp [sum]

private theorem toInt_foldl_value (outputs : List Output) (start : Amount) :
    (outputs.foldl (fun total output => total + output.value) start).toInt =
      (start.toInt + sum outputs).bmod (2 ^ 64) := by
  induction outputs generalizing start with
  | nil =>
    rw [sum_nil, Int.add_zero, Amount.bmod_of_fits (Amount.fits_toInt start)]
    rfl
  | cons output rest ih =>
    rw [List.foldl_cons, ih, sum_cons, Int64.toInt_add, Int.bmod_add_bmod, Int.add_assoc]

theorem toInt_total {outputs : List Output} (h : Amount.Fits (sum outputs)) :
    (total outputs).toInt = sum outputs := by
  rw [total, toInt_foldl_value, Int64.toInt_zero, Int.zero_add, Amount.bmod_of_fits h]

end Output

namespace RewardSplit

theorem sum_outputs (split : RewardSplit) (node : Masternode) :
    Output.sum (split.outputs node) = max split.owner.toInt 0 + max split.operator.toInt 0 := by
  have hpos (a : Amount) : 0 < a ↔ 0 < a.toInt := by
    rw [Int64.lt_iff_toInt_lt, Int64.toInt_zero]
  rw [outputs, Output.sum_append]
  by_cases howner : 0 < split.owner <;> by_cases hoperator : 0 < split.operator <;>
    simp only [howner, hoperator, if_true, if_false, Output.sum_cons, Output.sum_nil] <;>
    rw [hpos] at howner hoperator <;> omega

/-- Whatever the rate, the positive shares of a reward add up to an amount. -/
theorem fits_sum_outputs (node : Masternode) (reward : Amount) :
    Amount.Fits (Output.sum ((ofReward node reward).outputs node)) := by
  have howner : (ofReward node reward).owner.toInt =
      max (-9223372036854775808) (min 9223372036854775807
        (reward.toInt - (ofReward node reward).operator.toInt)) :=
    Amount.toInt_clamp _
  obtain ⟨hleast, hgreatest⟩ := Amount.fits_toInt reward
  obtain ⟨hlow, hhigh⟩ := Amount.fits_toInt (ofReward node reward).operator
  rw [sum_outputs, howner, Amount.Fits]
  omega

end RewardSplit

end Paymaster
