import Paymaster.Proofs.Payment.RewardTotal
/-!
# The shares of a reward

The operator's share is rounded toward zero and kept within the range of amounts;
the owner gets the rest of the reward. The share has the sign of the reward, so
that the rest is an amount at any rate and nothing of the reward is lost.
-/
namespace Paymaster

namespace Amount

private theorem nonneg_iff {amount : Amount} : 0 ≤ amount ↔ 0 ≤ amount.toInt := by
  rw [Int64.le_iff_toInt_le, Int64.toInt_zero]

private theorem toInt_share (amount : Amount) (rate whole : Int) :
    (amount.share rate whole).toInt =
      max (-9223372036854775808) (min 9223372036854775807 ((amount.toInt * rate).tdiv whole)) :=
  toInt_clamp _

section Sign

variable {amount : Amount} {rate whole : Int} (hrate : 0 ≤ rate) (hwhole : 0 ≤ whole)

include hrate hwhole

private theorem share_nonneg (h : 0 ≤ amount.toInt) : 0 ≤ (amount.share rate whole).toInt := by
  have hexact : 0 ≤ (amount.toInt * rate).tdiv whole :=
    Int.tdiv_nonneg (Int.mul_nonneg h hrate) hwhole
  rw [toInt_share]
  omega

private theorem share_nonpos (h : amount.toInt ≤ 0) : (amount.share rate whole).toInt ≤ 0 := by
  have hproduct : amount.toInt * rate ≤ 0 := Int.mul_nonpos_of_nonpos_of_nonneg h hrate
  have hexact : 0 ≤ -(amount.toInt * rate).tdiv whole := by
    rw [← Int.neg_tdiv]
    exact Int.tdiv_nonneg (Int.neg_nonneg_of_nonpos hproduct) hwhole
  rw [toInt_share]
  omega

end Sign

private theorem toInt_share_of_nonneg {amount : Amount} {rate : Int} (hrate : 0 ≤ rate) (whole : Int)
    (h : 0 ≤ amount.toInt) (hwhole : 0 ≤ whole) :
    (amount.share rate whole).toInt = min 9223372036854775807 (amount.toInt * rate / whole) := by
  have hproduct : 0 ≤ amount.toInt * rate := Int.mul_nonneg h hrate
  have hfloor : 0 ≤ amount.toInt * rate / whole := Int.ediv_nonneg hproduct hwhole
  rw [toInt_share, Int.tdiv_eq_ediv_of_nonneg hproduct]
  omega

private theorem share_le {amount : Amount} {rate whole : Int} (hrate : 0 ≤ rate) (hwhole : 0 < whole)
    (hpart : rate ≤ whole) (h : 0 ≤ amount.toInt) :
    (amount.share rate whole).toInt ≤ amount.toInt := by
  have hbound : amount.toInt * rate / whole ≤ amount.toInt := by
    apply Int.ediv_le_of_le_mul hwhole
    exact Int.mul_le_mul_of_nonneg_left hpart h
  rw [toInt_share_of_nonneg hrate whole h (Int.le_of_lt hwhole)]
  omega

end Amount

namespace Output

private theorem sum_nonneg {outputs : List Output} (h : ∀ output ∈ outputs, 0 ≤ output.value.toInt) :
    0 ≤ sum outputs := by
  induction outputs with
  | nil => exact Int.le_refl 0
  | cons output rest ih =>
    rw [List.forall_mem_cons] at h
    have hrest := ih h.2
    rw [sum_cons]
    omega

private theorem sum_take_bounds {outputs : List Output}
    (h : ∀ output ∈ outputs, 0 ≤ output.value.toInt)
    (count : Nat) : 0 ≤ sum (outputs.take count) ∧ sum (outputs.take count) ≤ sum outputs := by
  have htaken : 0 ≤ sum (outputs.take count) :=
    sum_nonneg fun output houtput => h output (List.mem_of_mem_take houtput)
  have hleft : 0 ≤ sum (outputs.drop count) :=
    sum_nonneg fun output houtput => h output (List.mem_of_mem_drop houtput)
  have hsplit : sum (outputs.take count) + sum (outputs.drop count) = sum outputs := by
    rw [← sum_append, List.take_append_drop]
  omega

end Output

namespace RewardSplit

variable (node : Masternode) (reward : Amount)

private theorem operator_of_unpaid {node : Masternode}
    (h : node.operatorRate = 0 ∨ node.operatorPayout = []) :
    (ofReward node reward).operator = 0 := by
  have hunpaid : ¬(node.operatorRate ≠ 0 ∧ node.operatorPayout ≠ []) := by
    rintro ⟨hrate, hscript⟩
    exact h.elim hrate hscript
  rw [ofReward, operatorPart, if_neg hunpaid]

private theorem operator_of_paid {node : Masternode} (hrate : node.operatorRate ≠ 0)
    (hscript : node.operatorPayout ≠ []) :
    (ofReward node reward).operator = reward.share node.operatorRate.toNat Masternode.fullRate := by
  rw [ofReward, operatorPart, if_pos ⟨hrate, hscript⟩]

private theorem operator_eq_zero_or_share :
    (ofReward node reward).operator = 0 ∨
      (ofReward node reward).operator =
        reward.share node.operatorRate.toNat Masternode.fullRate := by
  by_cases h : node.operatorRate = 0 ∨ node.operatorPayout = []
  · exact .inl (operator_of_unpaid reward h)
  · rw [not_or] at h
    exact .inr (operator_of_paid reward h.1 h.2)

private theorem operator_nonneg (h : 0 ≤ reward.toInt) :
    0 ≤ (ofReward node reward).operator.toInt := by
  rcases operator_eq_zero_or_share node reward with hzero | hshare
  · rw [hzero, Int64.toInt_zero]
  · rw [hshare]
    exact Amount.share_nonneg (Int.natCast_nonneg _) (Int.natCast_nonneg _) h

private theorem operator_nonpos (h : reward.toInt ≤ 0) :
    (ofReward node reward).operator.toInt ≤ 0 := by
  rcases operator_eq_zero_or_share node reward with hzero | hshare
  · rw [hzero, Int64.toInt_zero]
  · rw [hshare]
    exact Amount.share_nonpos (Int.natCast_nonneg _) (Int.natCast_nonneg _) h

/-- The owner's part is never clamped, because the operator's has the sign of the reward. -/
theorem toInt_owner :
    (ofReward node reward).owner.toInt =
      reward.toInt - (ofReward node reward).operator.toInt := by
  have hclamped : (ofReward node reward).owner.toInt =
      max (-9223372036854775808) (min 9223372036854775807
        (reward.toInt - (ofReward node reward).operator.toInt)) :=
    Amount.toInt_clamp _
  obtain ⟨hleast, hgreatest⟩ := Amount.fits_toInt reward
  obtain ⟨hlow, hhigh⟩ := Amount.fits_toInt (ofReward node reward).operator
  rw [hclamped]
  rcases lt_or_ge reward.toInt 0 with hsign | hsign
  · have hoperator := operator_nonpos node reward (Int.le_of_lt hsign)
    omega
  · have hoperator := operator_nonneg node reward hsign
    omega

private theorem operator_le_reward (h : 0 ≤ reward.toInt)
    (hrate : node.operatorRate.toNat ≤ Masternode.fullRate) :
    (ofReward node reward).operator.toInt ≤ reward.toInt := by
  rcases operator_eq_zero_or_share node reward with hzero | hshare
  · rwa [hzero, Int64.toInt_zero]
  · rw [hshare]
    exact Amount.share_le (Int.natCast_nonneg _) (by decide) (Int.ofNat_le.mpr hrate) h

private theorem outputs_eq_filter (split : RewardSplit) (node : Masternode) :
    split.outputs node =
      [⟨split.owner, node.payout⟩, ⟨split.operator, node.operatorPayout⟩].filter
        fun output : Output => 0 < output.value := by
  rw [outputs]
  by_cases howner : 0 < split.owner <;> by_cases hoperator : 0 < split.operator <;>
    simp [howner, hoperator]

private theorem value_pos_of_mem_outputs {split : RewardSplit} {node : Masternode} {output : Output}
    (h : output ∈ split.outputs node) : 0 < output.value := by
  rw [outputs_eq_filter, List.mem_filter] at h
  exact of_decide_eq_true h.2

private theorem fits_sum_take (count : Nat) :
    Amount.Fits (Output.sum (((ofReward node reward).outputs node).take count)) := by
  have hnonneg : ∀ output ∈ (ofReward node reward).outputs node, 0 ≤ output.value.toInt := by
    intro output houtput
    have hpositive := Int64.lt_iff_toInt_lt.mp (value_pos_of_mem_outputs houtput)
    exact Int.le_of_lt hpositive
  obtain ⟨htaken, htotal⟩ := Output.sum_take_bounds hnonneg count
  obtain ⟨_, hgreatest⟩ := fits_sum_outputs node reward
  exact ⟨by omega, by omega⟩

theorem reward_le_sum : reward.toInt ≤ Output.sum ((ofReward node reward).outputs node) := by
  have howner := toInt_owner node reward
  rw [sum_outputs]
  omega

theorem sum_eq_reward (h : 0 ≤ reward.toInt)
    (hrate : node.operatorRate.toNat ≤ Masternode.fullRate) :
    Output.sum ((ofReward node reward).outputs node) = reward.toInt := by
  have howner := toInt_owner node reward
  have hoperator := operator_nonneg node reward h
  have hpart := operator_le_reward node reward h hrate
  rw [sum_outputs]
  omega

/-- A reward is split without loss, whatever its sign and the operator's rate. The operator gets
nothing or the share of the rate, rounded toward zero and clamped, and the owner the exact rest. What
is positive is paid, the owner's part first; the payments add up to an amount, and never to less than
the reward. They are exactly the reward if it is not negative and the rate is a part of the whole. -/
theorem split_exact (node : Masternode) (reward : Amount) :
    let split := ofReward node reward
    let outputs := split.outputs node
    let scaled := reward.toInt * node.operatorRate.toNat
    split.owner.toInt + split.operator.toInt = reward.toInt ∧
    (node.operatorRate = 0 ∨ node.operatorPayout = [] → split.operator = 0) ∧
    (node.operatorRate ≠ 0 → node.operatorPayout ≠ [] →
      split.operator.toInt = max (-2 ^ 63) (min (2 ^ 63 - 1) (scaled.tdiv 10000)) ∧
      (0 ≤ reward → split.operator.toInt = min (2 ^ 63 - 1) (scaled / 10000))) ∧
    (0 ≤ reward → node.operatorRate ≤ 10000 →
      0 ≤ split.operator ∧ split.operator ≤ reward ∧ Output.sum outputs = reward.toInt) ∧
    outputs = ([⟨split.owner, node.payout⟩, ⟨split.operator, node.operatorPayout⟩].filter
      fun output : Output => 0 < output.value) ∧
    Output.sum outputs = max split.owner.toInt 0 + max split.operator.toInt 0 ∧
    (∀ count, Amount.Fits (Output.sum (outputs.take count))) ∧
    (∀ superblock, (BlockPayments.mk outputs superblock).masternodeTotal.toInt = Output.sum outputs) ∧
    reward.toInt ≤ Output.sum outputs := by
  intro split outputs scaled
  refine ⟨?_, operator_of_unpaid reward, ?_, ?_, outputs_eq_filter split node,
    sum_outputs split node, fits_sum_take node reward, ?_, reward_le_sum node reward⟩
  · have howner : split.owner.toInt = reward.toInt - split.operator.toInt := toInt_owner node reward
    omega
  · intro hrate hscript
    have hoperator : split.operator = _ := operator_of_paid reward hrate hscript
    rw [hoperator]
    refine ⟨Amount.toInt_share _ _ _, ?_⟩
    intro hsign
    exact Amount.toInt_share_of_nonneg (Int.natCast_nonneg _) _ (Amount.nonneg_iff.mp hsign) (by decide)
  · intro hsign hrate
    have hpart : node.operatorRate.toNat ≤ Masternode.fullRate := UInt16.le_iff_toNat_le.mp hrate
    rw [Amount.nonneg_iff] at hsign
    refine ⟨Amount.nonneg_iff.mpr (operator_nonneg node reward hsign), ?_,
      sum_eq_reward node reward hsign hpart⟩
    exact Int64.le_iff_toInt_le.mpr (operator_le_reward node reward hsign hpart)
  · intro superblock
    exact Output.toInt_total (fits_sum_outputs node reward)

/-- At one and a half times the whole, the operator alone is paid and gets more than the reward. -/
example : ofReward ⟨.zero 32, [], [0], 15000⟩ 101 = ⟨-50, 151⟩ := by decide

end RewardSplit

end Paymaster
