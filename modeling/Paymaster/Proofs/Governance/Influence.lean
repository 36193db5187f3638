import Paymaster.Proofs.Payment.ValueBound
import Paymaster.Proofs.Template.Completion
/-!
# The influence of governance

While superblocks are switched off, two worlds that differ in governance alone
complete the same transactions and give the same verdicts on payees. Their value
checks read the governance limit, but a limit that is not negative lies above the
block reward, which then is the bound in both.
-/
namespace Paymaster.World

/-- The same world under another governance. -/
def governedBy (world : World) (governance : Governance) : World :=
  { world with governance }

private theorem checkScheduled_governedBy (world : World) (governance : Governance)
    (paid : List Destination) (height : Height) (outputs : List Output) :
    (world.governedBy governance).checkScheduled paid height outputs =
      world.checkScheduled paid height outputs := by
  induction outputs with
  | nil => rfl
  | cons output rest ih =>
    rw [checkScheduled, checkScheduled, ih]
    rfl

/-- Governance has no part in the check of the scheduled payments, switched off or not. -/
theorem checkTransaction_governedBy (world : World) (governance : Governance) (lock : ChainLock)
    (tx : Transaction) (height : Height) (expected : Amount) :
    (world.governedBy governance).checkTransaction lock tx height expected =
      world.checkTransaction lock tx height expected := by
  rw [checkTransaction, checkTransaction]
  simp only [checkScheduled_governedBy]
  rfl

section SwitchedOff

variable {world : World} (hoff : world.isActive .superblocksEnabled = false)

include hoff

private theorem superblockState_of_off (height : Height) :
    world.superblockState height = .disabled := by
  rw [superblockState, hoff]
  rfl

private theorem superblockState_governedBy (governance : Governance) (height : Height) :
    (world.governedBy governance).superblockState height = world.superblockState height := by
  have hinactive : (world.governedBy governance).isActive .superblocksEnabled = false := hoff
  rw [superblockState_of_off hoff, superblockState_of_off hinactive]

private theorem policy_governedBy (governance : Governance) (height : Height) :
    (world.governedBy governance).policy height = world.policy height := by
  rw [policy, policy, superblockState_governedBy hoff]
  rfl

private theorem superblockOutputs_governedBy (governance : Governance) (height : Height) :
    (world.governedBy governance).superblockOutputs height = world.superblockOutputs height := by
  rw [superblockOutputs, superblockOutputs, superblockState_governedBy hoff,
    superblockState_of_off hoff]

theorem fill_governedBy (governance : Governance) (lock : ChainLock) (height : Height)
    (expected : Amount) :
    (world.governedBy governance).fill lock height expected = world.fill lock height expected := by
  rw [fill, fill, superblockOutputs_governedBy hoff]
  rfl

theorem checkPayee_governedBy (governance : Governance) (lock : ChainLock) (tx : Transaction)
    (height : Height) (expected actual : Amount) :
    (world.governedBy governance).checkPayee lock tx height expected actual =
      world.checkPayee lock tx height expected actual := by
  rw [checkPayee, checkPayee, policy_governedBy hoff, policy]
  cases world.grants.grantAt? height with
  | some grant => rfl
  | none =>
    rw [superblockState_of_off hoff]
    simp only [checkTransaction_governedBy]
    rfl

end SwitchedOff

private theorem le_ceiling_of_le_expected {world : World} {height : Height} {expected actual : Amount}
    (hlimit : 0 ≤ world.governance.limit height) (h : actual ≤ expected) :
    actual.toInt ≤ world.ceiling height expected := by
  rw [Int64.le_iff_toInt_le] at hlimit h
  rw [Int64.toInt_zero] at hlimit
  have hgreatest := (Amount.fits_toInt actual).2
  rw [ceiling]
  omega

theorem checkValue_ok_iff_of_off {world : World} {height : Height}
    (hoff : world.isActive .superblocksEnabled = false)
    (hlimit : 0 ≤ world.governance.limit height) (block : Block) (expected actual : Amount)
    (gate : Gate) :
    (world.checkValue block height expected actual).outcome gate = .ok () ↔
      world.grants.isGrantHeight height = true ∨ actual ≤ expected := by
  cases hgrant : world.grants.grantAt? height with
  | some grant =>
    simp [outcome_checkValue_of_grant hgrant, GrantTable.isGrantHeight, hgrant]
  | none =>
    rw [checkValue_ok_iff_of_no_grant hgrant, superblockState_of_off hoff]
    by_cases hreward : actual ≤ expected
    · have hceiling := le_ceiling_of_le_expected hlimit hreward
      simp [hreward, hceiling]
    · simp [hreward, GrantTable.isGrantHeight, hgrant]

/-- While superblocks are switched off, no answer of governance changes a completed transaction or
a verdict on payees, messages included. A block is valid by value at a grant height or within its
reward, whatever the limits, as long as none of them is negative. -/
theorem governance_powerless (world : World) (hoff : world.isActive .superblocksEnabled = false)
    (left right : Governance) (lock : ChainLock) (tx : Transaction) (block : Block)
    (height : Height) (expected actual : Amount) (gate : Gate) :
    (world.governedBy left).fill lock height expected =
      (world.governedBy right).fill lock height expected ∧
    (world.governedBy left).checkTransaction lock tx height expected =
      (world.governedBy right).checkTransaction lock tx height expected ∧
    (world.governedBy left).checkPayee lock tx height expected actual =
      (world.governedBy right).checkPayee lock tx height expected actual ∧
    (0 ≤ left.limit height → 0 ≤ right.limit height →
      let valid := world.grants.isGrantHeight height = true ∨ actual ≤ expected
      (((world.governedBy left).checkValue block height expected actual).outcome gate = .ok () ↔
        valid) ∧
      (((world.governedBy right).checkValue block height expected actual).outcome gate = .ok () ↔
        valid)) := by
  refine ⟨?_, ?_, ?_, ?_⟩
  · rw [fill_governedBy hoff, fill_governedBy hoff]
  · rw [checkTransaction_governedBy, checkTransaction_governedBy]
  · rw [checkPayee_governedBy hoff, checkPayee_governedBy hoff]
  · intro hleft hright valid
    refine ⟨?_, ?_⟩
    · exact @checkValue_ok_iff_of_off (world.governedBy left) _ hoff hleft block expected actual gate
    · exact @checkValue_ok_iff_of_off (world.governedBy right) _ hoff hright block expected actual gate

/-- A governance that triggers a superblock everywhere, grants it nothing and rejects all of them. -/
def hostile : Governance where
  isTriggered _ := true
  limit _ := 0
  payments _ := [⟨1000, []⟩]
  accepts _ _ _ _ := false
  description _ := ""

/-- The small world with superblocks switched off. -/
def smallOff : World :=
  { small with isActive := fun _ => false }

theorem governance_powerless_small :
    smallOff.isActive .superblocksEnabled = false ∧
    0 ≤ small.governance.limit 2 ∧ 0 ≤ hostile.limit 2 ∧
    (smallOff.governedBy small.governance).fill .small 2 400 =
      (smallOff.governedBy hostile).fill .small 2 400 ∧
    (smallOff.governedBy small.governance).checkPayee .small .small 2 400 400 =
      (smallOff.governedBy hostile).checkPayee .small .small 2 400 400 ∧
    ((smallOff.governedBy hostile).checkValue ⟨[.small]⟩ 2 400 400).outcome .wide = .ok () := by
  have hleft : 0 ≤ small.governance.limit 2 := by decide
  have hright : 0 ≤ hostile.limit 2 := by decide
  obtain ⟨hfill, _, hpayee, hvalue⟩ := governance_powerless smallOff rfl small.governance hostile
    .small .small ⟨[.small]⟩ 2 400 400 .wide
  exact ⟨rfl, hleft, hright, hfill, hpayee, (hvalue hleft hright).2.mpr (.inr (by decide))⟩

end Paymaster.World
