import Paymaster.Proofs.Session.Reply
/-!
# Bounds on the value of a block

Without a grant a block creates at most its reward, or at most the reward and the
governance limit where a superblock is triggered at a height of the cycle and
governance accepts it. Both bounds are compared as integers.
-/
namespace Paymaster

namespace Consensus

/-- A multiple of a positive cycle, from the start height on. -/
def IsCycleHeight (rules : Consensus) (height : Height) : Prop :=
  0 < rules.superblockCycle.toInt ∧ rules.superblockStart.toInt ≤ height.toInt ∧
    rules.superblockCycle.toInt ∣ height.toInt

instance (rules : Consensus) (height : Height) : Decidable (rules.IsCycleHeight height) :=
  inferInstanceAs (Decidable (_ ∧ _ ∧ _))

private theorem isSuperblockHeight_iff {rules : Consensus} {height : Height} :
    rules.isSuperblockHeight height = true ↔ rules.IsCycleHeight height := by
  have hdvd : height % rules.superblockCycle = 0 ↔
      rules.superblockCycle.toInt ∣ height.toInt := by
    rw [← Int32.toInt_inj, Int32.toInt_mod, Int32.toInt_zero]
    exact Int.dvd_iff_tmod_eq_zero.symm
  simp only [isSuperblockHeight, IsCycleHeight, Bool.and_eq_true, decide_eq_true_eq, beq_iff_eq,
    hdvd, Int32.lt_iff_toInt_lt, Int32.le_iff_toInt_le, Int32.toInt_zero, and_assoc]

private theorem classify_of_cycleHeight {rules : Consensus} {height : Height}
    (h : rules.IsCycleHeight height) : rules.classify height = .superblockHeight :=
  if_pos (isSuperblockHeight_iff.mpr h)

private theorem classify_of_not_cycleHeight {rules : Consensus} {height : Height}
    (h : ¬ rules.IsCycleHeight height) : rules.classify height = .regularBlock :=
  if_neg fun hs => h (isSuperblockHeight_iff.mp hs)

end Consensus

namespace World

private theorem superblockState_eq_triggered_iff {world : World} {height : Height} :
    world.superblockState height = .triggered ↔
      world.isActive .superblocksEnabled = true ∧ world.governance.isTriggered height = true := by
  rw [superblockState]
  cases world.isActive .superblocksEnabled <;> cases world.governance.isTriggered height <;> simp

/-- The reward and the governance limit as one integer, clamped to the range of amounts. -/
def ceiling (world : World) (height : Height) (expected : Amount) : Int :=
  max (-9223372036854775808)
    (min 9223372036854775807 (expected.toInt + (world.governance.limit height).toInt))

theorem toInt_superblockMax (world : World) (height : Height) (expected : Amount) :
    (world.superblockMax height expected).toInt = world.ceiling height expected :=
  Amount.toInt_clamp _

theorem le_superblockMax_iff {world : World} {height : Height} {expected actual : Amount} :
    actual ≤ world.superblockMax height expected ↔ actual.toInt ≤ world.ceiling height expected := by
  rw [Int64.le_iff_toInt_le, toInt_superblockMax]

private theorem outcome_boundByReward (height : Height) (expected actual : Amount)
    (bound : RewardBound) (gate : Gate) :
    (boundByReward height expected actual bound).outcome gate =
      if actual ≤ expected then .ok ()
      else .error (.exceededBlockReward height actual expected bound) := by
  rw [boundByReward]
  split <;> rfl

private theorem acceptsSuperblock_eq_true_iff {world : World} {block : Block} {height : Height}
    {expected actual : Amount} :
    world.acceptsSuperblock block height expected actual = true ↔
      ∃ tx, block.paymentTransaction? = some tx ∧
        world.governance.accepts tx height actual expected = true := by
  rw [acceptsSuperblock]
  cases block.paymentTransaction? <;> simp

private theorem outcome_checkTriggered (world : World) (block : Block) (height : Height)
    (expected actual : Amount) (gate : Gate) :
    (world.checkTriggered block height expected actual).outcome gate =
      if world.acceptsSuperblock block height expected actual then .ok ()
      else .error (.invalidSuperblock height) := by
  rw [checkTriggered]
  split <;> rfl

theorem outcome_checkValue_of_grant {world : World} {height : Height}
    {grant : Grant} (hgrant : world.grants.grantAt? height = some grant) (block : Block)
    (expected actual : Amount) (gate : Gate) :
    (world.checkValue block height expected actual).outcome gate = .ok () := by
  rw [checkValue, policy, hgrant]
  rfl

private theorem outcome_checkValue_of_regular {world : World} {height : Height}
    (hnone : world.grants.grantAt? height = none)
    (hcycle : ¬ world.consensus.IsCycleHeight height) (block : Block) (expected actual : Amount)
    (gate : Gate) :
    (world.checkValue block height expected actual).outcome gate =
      if actual ≤ expected then .ok ()
      else .error (.exceededBlockReward height actual expected .regularHeight) := by
  simp only [checkValue, policy, hnone, Consensus.classify_of_not_cycleHeight hcycle, Traced.outcome_debug_bind]
  exact outcome_boundByReward height expected actual .regularHeight gate

theorem outcome_checkValue_of_cycle {world : World} {height : Height}
    (hnone : world.grants.grantAt? height = none)
    (hcycle : world.consensus.IsCycleHeight height) (block : Block) (expected actual : Amount)
    (gate : Gate) :
    (world.checkValue block height expected actual).outcome gate =
      if actual ≤ world.superblockMax height expected then
        match world.superblockState height with
        | .triggered =>
          if world.acceptsSuperblock block height expected actual then .ok ()
          else .error (.invalidSuperblock height)
        | .notTriggered =>
          if actual ≤ expected then .ok ()
          else .error (.exceededBlockReward height actual expected .notTriggered)
        | .disabled =>
          if actual ≤ expected then .ok ()
          else .error (.exceededBlockReward height actual expected .superblocksDisabled)
      else .error (.exceededSuperblockLimit height actual (world.superblockMax height expected)) := by
  simp only [checkValue, policy, hnone, Consensus.classify_of_cycleHeight hcycle, Traced.outcome_debug_bind]
  split
  · cases world.superblockState height with
    | disabled =>
      rw [checkSuperblockHeight, Traced.outcome_debug_bind]
      exact outcome_boundByReward height expected actual .superblocksDisabled gate
    | notTriggered => exact outcome_boundByReward height expected actual .notTriggered gate
    | triggered => exact outcome_checkTriggered world block height expected actual gate
  · rfl

/-- What a refusal by value can say, and under which condition. -/
inductive ValueFault (world : World) (block : Block) (height : Height) (expected actual : Amount) :
    PaymentError → Prop
  | reward (bound : RewardBound) (exceeds : expected < actual) :
      ValueFault world block height expected actual
        (.exceededBlockReward height actual expected bound)
  | limit {limit : Amount} (isCeiling : limit.toInt = world.ceiling height expected)
      (exceeds : limit < actual) :
      ValueFault world block height expected actual (.exceededSuperblockLimit height actual limit)
  | superblock (triggered : world.superblockState height = .triggered)
      (rejected : world.acceptsSuperblock block height expected actual = false) :
      ValueFault world block height expected actual (.invalidSuperblock height)

private theorem valueFault_of_error {world : World} {block : Block} {height : Height}
    {expected actual : Amount} {gate : Gate} {e : PaymentError}
    (h : (world.checkValue block height expected actual).outcome gate = .error e) :
    world.ValueFault block height expected actual e := by
  cases hgrant : world.grants.grantAt? height with
  | some grant => simp [outcome_checkValue_of_grant hgrant] at h
  | none =>
    by_cases hcycle : world.consensus.IsCycleHeight height
    · rw [outcome_checkValue_of_cycle hgrant hcycle] at h
      split at h
      · split at h <;> split at h <;> cases h
        · next htriggered hrejected => exact .superblock htriggered (Bool.eq_false_iff.mpr hrejected)
        · next hexceeds => exact .reward _ (Int64.not_le.mp hexceeds)
        · next hexceeds => exact .reward _ (Int64.not_le.mp hexceeds)
      · next hexceeds =>
        cases h
        exact .limit (toInt_superblockMax world height expected) (Int64.not_le.mp hexceeds)
    · rw [outcome_checkValue_of_regular hgrant hcycle] at h
      split at h
      · cases h
      · next hexceeds =>
        cases h
        exact .reward _ (Int64.not_le.mp hexceeds)

theorem checkValue_ok_iff_of_cycle {world : World} {height : Height}
    (hnone : world.grants.grantAt? height = none)
    (hcycle : world.consensus.IsCycleHeight height) (block : Block) (expected actual : Amount)
    (gate : Gate) :
    (world.checkValue block height expected actual).outcome gate = .ok () ↔
      actual.toInt ≤ world.ceiling height expected ∧
        if world.superblockState height = .triggered then
          world.acceptsSuperblock block height expected actual = true
        else actual ≤ expected := by
  rw [outcome_checkValue_of_cycle hnone hcycle, ← le_superblockMax_iff]
  split
  · next hmost => cases world.superblockState height <;> simp [hmost]
  · next hmost => simp [hmost]

private theorem checkValue_ok_iff_of_regular {world : World} {height : Height}
    (hnone : world.grants.grantAt? height = none)
    (hcycle : ¬ world.consensus.IsCycleHeight height) (block : Block) (expected actual : Amount)
    (gate : Gate) :
    (world.checkValue block height expected actual).outcome gate = .ok () ↔ actual ≤ expected := by
  rw [outcome_checkValue_of_regular hnone hcycle]
  split <;> simp [*]

theorem checkValue_ok_iff_of_no_grant {world : World} {height : Height}
    (hnone : world.grants.grantAt? height = none) (block : Block) (expected actual : Amount)
    (gate : Gate) :
    (world.checkValue block height expected actual).outcome gate = .ok () ↔
      (actual ≤ expected ∧ (¬ world.consensus.IsCycleHeight height ∨
        actual.toInt ≤ world.ceiling height expected ∧ ¬ world.superblockState height = .triggered)) ∨
      (world.consensus.IsCycleHeight height ∧ actual.toInt ≤ world.ceiling height expected ∧
        world.superblockState height = .triggered ∧
        world.acceptsSuperblock block height expected actual = true) := by
  by_cases hcycle : world.consensus.IsCycleHeight height
  · rw [checkValue_ok_iff_of_cycle hnone hcycle]
    by_cases hstate : world.superblockState height = .triggered
    · simp [hcycle, hstate]
    · simp [hcycle, hstate, and_comm]
  · rw [checkValue_ok_iff_of_regular hnone hcycle]
    simp [hcycle]

theorem checkValue_exceeds_ceiling {world : World} {height : Height} {expected actual : Amount}
    (hnone : world.grants.grantAt? height = none) (hcycle : world.consensus.IsCycleHeight height)
    (hexceeds : world.ceiling height expected < actual.toInt) (block : Block) (gate : Gate) :
    (world.checkValue block height expected actual).outcome gate =
      .error (.exceededSuperblockLimit height actual (world.superblockMax height expected)) := by
  have hmost : ¬ actual ≤ world.superblockMax height expected :=
    fun h => Int.not_lt.mpr (le_superblockMax_iff.mp h) hexceeds
  rw [outcome_checkValue_of_cycle hnone hcycle, if_neg hmost]

private theorem result_checkValue (session : Session) (gate : Gate) (block : Block) (height : Height)
    (expected actual : Amount) :
    (session.step gate (.checkValue (block.transactions.map .given) height expected actual)).2.result =
      ((session.world.checkValue block height expected actual).outcome gate).map
        fun _ => Answer.valid := by
  have hblock : (block.transactions.map Operand.given).map session.transactionOf =
      block.transactions := by
    simp [Session.transactionOf, Function.comp_def]
  rw [Session.result_answeredBy rfl, hblock]

/-- No block creates more than the rules of its height allow. Without a grant a block is valid
exactly within its reward, or within the ceiling of a triggered superblock that governance
accepts; a refusal names a limit that the block really exceeds, the ceiling goes before sporks
and triggers, and a session answers with this verdict whatever its chain, poisoned or not. -/
theorem checkValue_no_overissue (world : World) (block : Block) (height : Height)
    (expected actual : Amount) (gate : Gate) :
    let verdict := (world.checkValue block height expected actual).outcome gate
    let ceiling := max (-9223372036854775808)
      (min 9223372036854775807 (expected.toInt + (world.governance.limit height).toInt))
    let triggered := world.isActive .superblocksEnabled = true ∧
      world.governance.isTriggered height = true
    (∀ grant, world.grants.grantAt? height = some grant → verdict = .ok ()) ∧
    (world.grants.grantAt? height = none →
      (verdict = .ok () ↔
        (actual ≤ expected ∧ (¬ world.consensus.IsCycleHeight height ∨
          actual.toInt ≤ ceiling ∧ ¬ triggered)) ∨
        (world.consensus.IsCycleHeight height ∧ actual.toInt ≤ ceiling ∧ triggered ∧
          ∃ tx, block.paymentTransaction? = some tx ∧
            world.governance.accepts tx height actual expected = true)) ∧
      (world.consensus.IsCycleHeight height → ceiling < actual.toInt →
        ∃ limit, limit.toInt = ceiling ∧
          verdict = .error (.exceededSuperblockLimit height actual limit))) ∧
    (∀ h a limit bound, verdict = .error (.exceededBlockReward h a limit bound) →
      h = height ∧ a = actual ∧ limit = expected ∧ limit < a) ∧
    (∀ h a limit, verdict = .error (.exceededSuperblockLimit h a limit) →
      h = height ∧ a = actual ∧ limit.toInt = ceiling ∧ limit < a) ∧
    (∀ lock register,
      ((Session.mk world lock register).step gate
        (.checkValue (block.transactions.map .given) height expected actual)).2.result =
        verdict.map fun _ => .valid) := by
  intro verdict ceiling triggered
  refine ⟨?_, ?_, ?_, ?_, ?_⟩
  · intro grant hgrant
    exact outcome_checkValue_of_grant hgrant block expected actual gate
  · intro hnone
    refine ⟨?_, fun hcycle hexceeds => ?_⟩
    · have hok := checkValue_ok_iff_of_no_grant hnone block expected actual gate
      rw [superblockState_eq_triggered_iff, acceptsSuperblock_eq_true_iff] at hok
      exact hok
    · exact ⟨world.superblockMax height expected, toInt_superblockMax world height expected,
        checkValue_exceeds_ceiling hnone hcycle hexceeds block gate⟩
  · intro h a limit bound herror
    cases valueFault_of_error herror with
    | reward _ hexceeds => exact ⟨rfl, rfl, rfl, hexceeds⟩
  · intro h a limit herror
    cases valueFault_of_error herror with
    | limit hceiling hexceeds => exact ⟨rfl, rfl, hceiling, hexceeds⟩
  · intro lock register
    exact result_checkValue ⟨world, lock, register⟩ gate block height expected actual

end World

end Paymaster
