import Paymaster.Proofs.Payment.ValueBound
import Paymaster.Proofs.Template.Completion
/-!
# Templates before the value check

A block whose reward transaction spends exactly its reward is valid again once that
transaction is completed, provided that governance keeps its own limit. The template
looks at the trigger alone and the check also at the cycle, so a superblock triggered
outside the cycle is refused unless it adds nothing.
-/
namespace Paymaster

namespace Block

/-- The position of the transaction that carries the block reward. -/
def paymentIndex (block : Block) : Nat :=
  if block.isProofOfStake then 1 else 0

/-- The block with another transaction in the place of the one that carries its reward. -/
def replacePayment (block : Block) (tx : Transaction) : Block :=
  ⟨block.transactions.set block.paymentIndex tx⟩

private theorem paymentTransaction?_eq (block : Block) :
    block.paymentTransaction? = block.transactions[block.paymentIndex]? := by
  rw [paymentTransaction?, paymentIndex]
  split <;> rfl

private theorem isProofOfStake_replacePayment {block : Block} {old tx : Transaction}
    (h : block.paymentTransaction? = some old) (hshape : tx.isCoinstake = old.isCoinstake) :
    (block.replacePayment tx).isProofOfStake = block.isProofOfStake := by
  rw [paymentTransaction?_eq] at h
  cases hstake : block.isProofOfStake with
  | true =>
    have hindex : block.paymentIndex = 1 := by rw [paymentIndex, hstake, if_pos rfl]
    rw [hindex] at h
    have hlt := (List.getElem?_eq_some_iff.mp h).1
    have hold : old.isCoinstake = true := by
      rw [isProofOfStake, h] at hstake
      exact hstake
    rw [isProofOfStake, replacePayment, hindex, List.getElem?_set_self hlt]
    exact hshape.trans hold
  | false =>
    have hindex : block.paymentIndex = 0 := by rw [paymentIndex, hstake]; rfl
    rw [isProofOfStake, replacePayment, hindex, List.getElem?_set_ne Nat.zero_ne_one]
    exact hstake

theorem paymentTransaction?_replacePayment {block : Block} {old tx : Transaction}
    (h : block.paymentTransaction? = some old) (hshape : tx.isCoinstake = old.isCoinstake) :
    (block.replacePayment tx).paymentTransaction? = some tx := by
  have hindex : (block.replacePayment tx).paymentIndex = block.paymentIndex := by
    rw [paymentIndex, isProofOfStake_replacePayment h hshape, paymentIndex]
  rw [paymentTransaction?_eq] at h
  rw [paymentTransaction?_eq, hindex]
  exact List.getElem?_set_self (List.getElem?_eq_some_iff.mp h).1

end Block

namespace World

private theorem sum_filled {world : World} {lock : ChainLock} {tx filled : Transaction}
    {height : Height} {expected : Amount} {payments : BlockPayments} {gate : Gate}
    (h : (world.fill lock height expected).outcome tx gate = (.ok payments, filled))
    (hminer : ∀ miner, tx.outputs[minerIndex]? = some miner →
      Amount.Fits (miner.value.toInt - Output.sum payments.masternode)) :
    Output.sum filled.outputs = Output.sum tx.outputs + Output.sum (world.grantOutputs height) +
      Output.sum (world.superblockPayments height) := by
  obtain ⟨hlength, _, rfl, rfl⟩ := fill_eq_ok_iff.mp h
  obtain ⟨first, miner, rest, houtputs⟩ := Transaction.exists_miner hlength
  have htotal := world.toInt_masternodeTotal lock.chain height expected
  have hfits := hminer miner (by rw [houtputs]; rfl)
  exact sum_complete houtputs htotal hfits world height

private theorem le_ceiling_iff {world : World} {height : Height} {expected actual : Amount}
    {added : Int} (hlimit : 0 ≤ (world.governance.limit height).toInt)
    (hactual : actual.toInt = expected.toInt + added) :
    actual.toInt ≤ world.ceiling height expected ↔
      added ≤ (world.governance.limit height).toInt := by
  have hleast := (Amount.fits_toInt expected).1
  have hgreatest := (Amount.fits_toInt actual).2
  rw [ceiling]
  omega

private theorem checkValue_ok_iff_of_added {world : World} {height : Height}
    {expected actual : Amount} {added : Int} (hnone : world.grants.grantAt? height = none)
    (hlimit : 0 ≤ (world.governance.limit height).toInt)
    (hactual : actual.toInt = expected.toInt + added)
    (hidle : world.superblockState height ≠ .triggered → added = 0) (block : Block) (gate : Gate) :
    (world.checkValue block height expected actual).outcome gate = .ok () ↔
      world.superblockState height ≠ .triggered ∨
      (world.superblockState height = .triggered ∧ world.consensus.IsCycleHeight height ∧
        added ≤ (world.governance.limit height).toInt ∧
        world.acceptsSuperblock block height expected actual = true) ∨
      (world.superblockState height = .triggered ∧ ¬ world.consensus.IsCycleHeight height ∧
        added ≤ 0) := by
  have hreward : actual ≤ expected ↔ added ≤ 0 := by
    rw [Int64.le_iff_toInt_le, hactual]
    omega
  rw [checkValue_ok_iff_of_no_grant hnone, le_ceiling_iff hlimit hactual, hreward]
  by_cases htriggered : world.superblockState height = .triggered
  · by_cases hcycle : world.consensus.IsCycleHeight height
    · simp [htriggered, hcycle]
    · simp [htriggered, hcycle]
  · have hzero : added = 0 := hidle htriggered
    simp [htriggered, hzero, hlimit]

/-- A completed template passes the value check exactly at a grant height, or where no superblock is
triggered, or where the triggered one stays within the limit and is accepted at a height of the
cycle, or adds nothing outside of it; the completed transaction still carries its block's reward. -/
theorem checkValue_of_fill (world : World) (lock : ChainLock) (block : Block)
    (tx filled : Transaction) (payments : BlockPayments) (height : Height) (expected actual : Amount)
    (gate gate' : Gate) (hlimit : 0 ≤ (world.governance.limit height).toInt)
    (hblock : block.paymentTransaction? = some tx)
    (hexpected : Output.sum tx.outputs = expected.toInt)
    (hfill : (world.fill lock height expected).outcome tx gate = (.ok payments, filled))
    (hminer : ∀ miner, tx.outputs[minerIndex]? = some miner →
      Amount.Fits (miner.value.toInt - Output.sum payments.masternode))
    (hactual : actual.toInt = Output.sum filled.outputs) :
    (block.replacePayment filled).paymentTransaction? = some filled ∧
    ((world.checkValue (block.replacePayment filled) height expected actual).outcome gate' = .ok () ↔
      world.grants.isGrantHeight height = true ∨
      world.superblockState height ≠ .triggered ∨
      (world.superblockState height = .triggered ∧ world.consensus.IsCycleHeight height ∧
        Output.sum payments.superblock ≤ (world.governance.limit height).toInt ∧
        world.governance.accepts filled height actual expected = true) ∨
      (world.superblockState height = .triggered ∧ ¬ world.consensus.IsCycleHeight height ∧
        Output.sum payments.superblock ≤ 0)) := by
  obtain ⟨hminerIndex, hlock, hpayments, hcomplete⟩ := fill_eq_ok_iff.mp hfill
  have hshape : filled.isCoinstake = tx.isCoinstake := by
    rw [hcomplete]
    exact isCoinstake_complete hminerIndex world height payments
  have hpayment := Block.paymentTransaction?_replacePayment hblock hshape
  have hsuperblock : payments.superblock = world.superblockPayments height := by rw [hpayments]; rfl
  have hsum := sum_filled hfill hminer
  refine ⟨hpayment, ?_⟩
  cases hgrant : world.grants.grantAt? height with
  | some grant =>
    have hheight : world.grants.isGrantHeight height = true := by
      simp [GrantTable.isGrantHeight, hgrant]
    simp [outcome_checkValue_of_grant hgrant, hheight]
  | none =>
    have hheight : world.grants.isGrantHeight height = false := by
      simp [GrantTable.isGrantHeight, hgrant]
    have hgrantSum : Output.sum (world.grantOutputs height) = 0 := by
      simp [grantOutputs, hgrant]
    have hadded : actual.toInt = expected.toInt + Output.sum payments.superblock := by
      rw [hactual, hsum, hgrantSum, hexpected, hsuperblock]
      omega
    have hidle : world.superblockState height ≠ .triggered → Output.sum payments.superblock = 0 := by
      intro hstate
      rw [hsuperblock, superblockPayments, if_neg hstate]
      rfl
    have haccepts : world.acceptsSuperblock (block.replacePayment filled) height expected actual =
        world.governance.accepts filled height actual expected := by
      rw [acceptsSuperblock, hpayment]
      rfl
    rw [checkValue_ok_iff_of_added hgrant hlimit hadded hidle, haccepts, hheight]
    simp

theorem checkValue_of_fill_small :
    (small.fill .small 2 400).outcome .small .wide = (.ok (smallPayments 2 400), smallFilled 2 400) ∧
    0 ≤ (small.governance.limit 2).toInt ∧
    (Block.mk [⟨[], [], 1, 0⟩, .small]).paymentTransaction? = some .small ∧
    Output.sum Transaction.small.outputs = (400 : Amount).toInt ∧
    (460 : Amount).toInt = Output.sum (smallFilled 2 400).outputs ∧
    (small.checkValue (Block.mk [⟨[], [], 1, 0⟩, smallFilled 2 400]) 2 400 460).outcome .wide =
      .ok () := by
  have hblock : (Block.mk [⟨[], [], 1, 0⟩, .small]).paymentTransaction? = some .small := by decide
  have hminer : ∀ miner, Transaction.small.outputs[minerIndex]? = some miner →
      Amount.Fits (miner.value.toInt - Output.sum (smallPayments 2 400).masternode) := by
    rintro miner ⟨⟩
    decide
  have hvalid := checkValue_of_fill small .small _ .small _ _ 2 400 460 .wide .wide (by decide) hblock
    (by decide) (fill_small 2 400 _) hminer (by decide)
  refine ⟨fill_small 2 400 _, by decide, hblock, by decide, by decide, hvalid.2.mpr ?_⟩
  exact .inr (.inr (.inl ⟨rfl, by decide, by decide, rfl⟩))

end World

end Paymaster
