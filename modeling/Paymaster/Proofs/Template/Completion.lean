import Paymaster.Proofs.Payment.Outcome
import Paymaster.Proofs.Payment.RewardTotal
/-!
# Completed transactions

A completed transaction keeps its outputs in place and appends the grant, the
masternode outputs and the superblock outputs. Only the miner's output changes:
it gives up what the masternode gets, so that no value appears but the grant and
the superblock.
-/
namespace Paymaster

theorem Transaction.exists_miner {tx : Transaction} (h : minerIndex < tx.outputs.length) :
    ∃ first miner rest, tx.outputs = first :: miner :: rest := by
  rw [minerIndex] at h
  cases houtputs : tx.outputs with
  | nil => simp [houtputs] at h
  | cons first tail =>
    cases tail with
    | nil => simp [houtputs] at h
    | cons miner rest => exact ⟨first, miner, rest, rfl⟩

namespace World

theorem fill_eq_ok_iff {world : World} {lock : ChainLock} {tx filled : Transaction} {height : Height}
    {expected : Amount} {payments : BlockPayments} {gate : Gate} :
    (world.fill lock height expected).outcome tx gate = (.ok payments, filled) ↔
      minerIndex < tx.outputs.length ∧ lock.poisoned = false ∧
        payments = world.templatePayments height (world.scheduleOn lock.chain height expected) ∧
        filled = world.complete tx height payments := by
  rw [outcome_fill]
  by_cases hminer : tx.outputs.length ≤ minerIndex
  · simp [hminer, Nat.not_lt.mpr hminer]
  · cases hlock : lock.poisoned with
    | true => simp [schedule_of_poisoned hlock, hminer]
    | false =>
      rw [schedule_of_readable hlock, if_neg hminer]
      simp only [Except.ok.injEq, Prod.mk.injEq, Nat.not_le.mp hminer, true_and]
      constructor
      · rintro ⟨rfl, rfl⟩
        exact ⟨rfl, rfl⟩
      · rintro ⟨rfl, rfl⟩
        exact ⟨rfl, rfl⟩

theorem outputs_complete {tx : Transaction} {first miner : Output} {rest : List Output}
    (h : tx.outputs = first :: miner :: rest) (world : World) (height : Height)
    (payments : BlockPayments) :
    (world.complete tx height payments).outputs =
      first :: { miner with value := miner.value - payments.masternodeTotal } ::
        (rest ++ world.grantOutputs height ++ payments.masternode ++ payments.superblock) := by
  change List.modify (tx.outputs ++ _ ++ _ ++ _) _ _ = _
  rw [h]
  rfl

theorem isCoinstake_complete {tx : Transaction} (h : minerIndex < tx.outputs.length) (world : World)
    (height : Height) (payments : BlockPayments) :
    (world.complete tx height payments).isCoinstake = tx.isCoinstake := by
  obtain ⟨first, miner, rest, houtputs⟩ := Transaction.exists_miner h
  have hfilled := outputs_complete houtputs world height payments
  have hinputs : (world.complete tx height payments).inputs = tx.inputs := rfl
  rw [Transaction.isCoinstake, Transaction.isCoinstake, hinputs, hfilled, houtputs]
  cases tx.inputs <;> rfl

private theorem fits_sum_owed (world : World) (chain : Chain) (height : Height) (expected : Amount) :
    Amount.Fits (Output.sum (world.scheduleOn chain height expected).outputs) := by
  cases hschedule : world.scheduleOn chain height expected with
  | unavailable gap =>
    change Amount.Fits 0
    decide
  | payees outputs =>
    obtain ⟨_, node, _, _, rfl⟩ := scheduleOn_eq_payees_iff.mp hschedule
    exact RewardSplit.fits_sum_outputs node (world.masternodeReward height expected)

theorem toInt_masternodeTotal (world : World) (chain : Chain) (height : Height) (expected : Amount) :
    (world.templatePayments height
        (world.scheduleOn chain height expected)).masternodeTotal.toInt =
      Output.sum (world.scheduleOn chain height expected).outputs :=
  Output.toInt_total (world.fits_sum_owed chain height expected)

/-- A completion adds the grant and the superblock to the value of a transaction, nothing else. -/
theorem sum_complete {tx : Transaction} {first miner : Output} {rest : List Output}
    (houtputs : tx.outputs = first :: miner :: rest) {payments : BlockPayments}
    (htotal : payments.masternodeTotal.toInt = Output.sum payments.masternode)
    (hfits : Amount.Fits (miner.value.toInt - Output.sum payments.masternode)) (world : World)
    (height : Height) :
    Output.sum (world.complete tx height payments).outputs =
      Output.sum tx.outputs + Output.sum (world.grantOutputs height) +
        Output.sum payments.superblock := by
  have hminer : (miner.value - payments.masternodeTotal).toInt =
      miner.value.toInt - Output.sum payments.masternode := by
    rw [Amount.toInt_sub_of_fits (by rwa [htotal]), htotal]
  rw [outputs_complete houtputs, houtputs]
  simp only [Output.sum_cons, Output.sum_append, hminer]
  omega

end World

/-- A world with one masternode, whose operator gets a quarter of half the reward, with a triggered
superblock of 60 at every even height and a grant of 7 at height 3. -/
def World.small : World where
  network := .regtest
  consensus := ⟨1, 2, 2, 0, 0⟩
  grants := ⟨[⟨3, 7⟩], by decide, by decide⟩
  lite := false
  masternodes :=
    { payeeAfter := fun _ => some
        ⟨.zero 32, Script.payToKeyHash (.zero 20), Script.payToScriptHash (.zero 20), 2500⟩
      projected := fun _ => []
      dip3Enforced := true }
  governance :=
    { isTriggered := fun height => height % 2 == 0
      limit := fun _ => 100
      payments := fun _ => [⟨60, Script.payToScriptHash (.zero 20)⟩]
      accepts := fun _ _ actual expected => actual ≤ expected + 100
      description := fun _ => "" }
  isActive := fun _ => true
  masternodeReward := fun _ reward => reward.share 50 100

def ChainLock.small : ChainLock :=
  ⟨⟨#[.zero 32, .zero 32, .zero 32]⟩, false⟩

/-- A coinstake that gives 400 to its miner. -/
def Transaction.small : Transaction where
  inputs := [⟨⟨.zero 32, 0⟩, [], 0⟩]
  outputs := [⟨0, []⟩, ⟨400, Grant.script⟩]

namespace World

/-- What the small world pays beside the miner. -/
def smallPayments (height : Height) (expected : Amount) : BlockPayments :=
  small.templatePayments height (small.scheduleOn ChainLock.small.chain height expected)

def smallFilled (height : Height) (expected : Amount) : Transaction :=
  small.complete .small height (smallPayments height expected)

theorem fill_small (height : Height) (expected : Amount) (gate : Gate) :
    (small.fill .small height expected).outcome .small gate =
      (.ok (smallPayments height expected), smallFilled height expected) :=
  fill_eq_ok_iff.mpr ⟨by decide, rfl, rfl, rfl⟩

example : (smallFilled 2 400).outputs.map Output.value = [0, 200, 150, 50, 60] := by decide

end World

end Paymaster
