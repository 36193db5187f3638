import Paymaster.Proofs.Governance.Influence
/-!
# Agreement on superblocks

Governance is asked about a triggered superblock twice: by the value check, about
the payment transaction of a block, and by the payee check, about a transaction.
Both put the same question, so that neither accepts what the other one refuses as
an invalid superblock; the value check may only refuse earlier, at the ceiling.
-/
namespace Paymaster.World

private theorem scheduledFault?_ne_invalidSuperblock (world : World) (paid : List Destination)
    (height h : Height) (output : Output) :
    world.scheduledFault? paid height output ≠ some (.invalidSuperblock h) := by
  rw [scheduledFault?]
  cases world.destination? output.script with
  | none => simp
  | some destination => by_cases hpaid : destination ∈ paid <;> simp [hpaid]

private theorem checkTransaction_ne_invalidSuperblock (world : World) (lock : ChainLock)
    (tx : Transaction) (height h : Height) (expected : Amount) (gate : Gate) :
    (world.checkTransaction lock tx height expected).outcome gate ≠
      .error (.invalidSuperblock h) := by
  intro hrefused
  rw [outcome_checkTransaction] at hrefused
  split at hrefused
  · cases hrefused
  · cases hschedule : world.schedule lock height expected with
    | error e =>
      rw [hschedule, (schedule_eq_error_iff.mp hschedule).2] at hrefused
      cases hrefused
    | ok schedule =>
      rw [hschedule] at hrefused
      cases schedule with
      | unavailable gap => cases hrefused
      | payees outputs =>
        cases hfault : outputs.findSome? (world.scheduledFault? (world.paid tx) height) with
        | none => simp [hfault] at hrefused
        | some e =>
          obtain ⟨output, _, houtput⟩ := List.exists_of_findSome?_eq_some hfault
          have he : e = .invalidSuperblock h := by simpa [hfault] using hrefused
          rw [he] at houtput
          exact scheduledFault?_ne_invalidSuperblock world _ height h output houtput

theorem checkPayee_invalidSuperblock_iff {world : World} {height h : Height}
    (hnone : world.grants.grantAt? height = none) (hlite : world.lite = false) (lock : ChainLock)
    (tx : Transaction) (expected actual : Amount) (gate : Gate) :
    (world.checkPayee lock tx height expected actual).outcome gate = .error (.invalidSuperblock h) ↔
      height = h ∧ world.rejectsSuperblock tx height expected actual = true := by
  rw [outcome_checkPayee_of_no_grant hnone, hlite]
  cases world.rejectsSuperblock tx height expected actual with
  | true => simp
  | false => simpa using checkTransaction_ne_invalidSuperblock world lock tx height h expected gate

private theorem acceptsSuperblock_of_payment {block : Block} {tx : Transaction}
    (htx : block.paymentTransaction? = some tx) (world : World) (height : Height)
    (expected actual : Amount) :
    world.acceptsSuperblock block height expected actual =
      world.governance.accepts tx height actual expected := by
  rw [acceptsSuperblock, htx]
  rfl

theorem checkValue_invalidSuperblock_iff {world : World} {height h : Height}
    (hnone : world.grants.grantAt? height = none)
    (hcycle : world.consensus.IsCycleHeight height) {block : Block} {tx : Transaction}
    (htx : block.paymentTransaction? = some tx) (expected actual : Amount) (gate : Gate) :
    (world.checkValue block height expected actual).outcome gate = .error (.invalidSuperblock h) ↔
      height = h ∧ actual.toInt ≤ world.ceiling height expected ∧
        world.rejectsSuperblock tx height expected actual = true := by
  rw [outcome_checkValue_of_cycle hnone hcycle, ← le_superblockMax_iff, rejectsSuperblock_eq_true_iff,
    acceptsSuperblock_of_payment htx]
  by_cases hmost : actual ≤ world.superblockMax height expected
  · cases world.superblockState height with
    | triggered => cases world.governance.accepts tx height actual expected <;> simp [hmost]
    | notTriggered => by_cases hreward : actual ≤ expected <;> simp [hmost, hreward]
    | disabled => by_cases hreward : actual ≤ expected <;> simp [hmost, hreward]
  · simp [hmost]

/-- At a superblock height the value check of a block and the payee check of its payment transaction
agree on superblocks, whatever the transaction pays and whether or not the chain can be read: a
valid value is never an invalid superblock by payees, and an invalid superblock by value is one by
payees. The converse holds up to the ceiling of the value. -/
theorem superblock_verdicts_agree {world : World} (hlite : world.lite = false) {block : Block}
    {tx : Transaction} (htx : block.paymentTransaction? = some tx) {height : Height}
    (hnone : world.grants.grantAt? height = none)
    (hcycle : world.consensus.IsCycleHeight height) (lock : ChainLock) (expected actual : Amount)
    (gate : Gate) :
    let value := (world.checkValue block height expected actual).outcome gate
    let payees := (world.checkPayee lock tx height expected actual).outcome gate
    (value = .ok () → ∀ h, payees ≠ .error (.invalidSuperblock h)) ∧
    (∀ h, value = .error (.invalidSuperblock h) → payees = .error (.invalidSuperblock h)) ∧
    (actual.toInt ≤ world.ceiling height expected →
      ∀ h, payees = .error (.invalidSuperblock h) → value = .error (.invalidSuperblock h)) := by
  intro value payees
  have hvalue (h : Height) : value = .error (.invalidSuperblock h) ↔ _ :=
    checkValue_invalidSuperblock_iff hnone hcycle htx expected actual gate
  have hpayees (h : Height) : payees = .error (.invalidSuperblock h) ↔ _ :=
    checkPayee_invalidSuperblock_iff hnone hlite lock tx expected actual gate
  refine ⟨?_, ?_, ?_⟩
  · intro hok h hinvalid
    obtain ⟨hheight, hrejected⟩ := (hpayees h).mp hinvalid
    have hbelow : actual.toInt ≤ world.ceiling height expected :=
      ((checkValue_ok_iff_of_cycle hnone hcycle block expected actual gate).mp hok).1
    have hrefused := (hvalue h).mpr ⟨hheight, hbelow, hrejected⟩
    rw [hok] at hrefused
    cases hrefused
  · intro h hinvalid
    obtain ⟨hheight, _, hrejected⟩ := (hvalue h).mp hinvalid
    exact (hpayees h).mpr ⟨hheight, hrejected⟩
  · intro hbelow h hinvalid
    obtain ⟨hheight, hrejected⟩ := (hpayees h).mp hinvalid
    exact (hvalue h).mpr ⟨hheight, hbelow, hrejected⟩

/-- The small world with superblocks on, under a governance that rejects them all. -/
def smallRejecting : World :=
  small.governedBy hostile

/-- A block with a coinstake that pays its masternode in full. -/
def smallPaidBlock : Block :=
  ⟨[.empty, smallFilled 2 400]⟩

theorem superblock_verdicts_agree_small :
    smallRejecting.lite = false ∧
    smallPaidBlock.paymentTransaction? = some (smallFilled 2 400) ∧
    smallRejecting.grants.grantAt? 2 = none ∧ smallRejecting.consensus.IsCycleHeight 2 ∧
    (smallRejecting.checkTransaction .small (smallFilled 2 400) 2 400).outcome .wide =
      .ok .verified ∧
    (smallRejecting.checkValue smallPaidBlock 2 400 400).outcome .wide =
      .error (.invalidSuperblock 2) ∧
    (smallRejecting.checkPayee .small (smallFilled 2 400) 2 400 400).outcome .wide =
      .error (.invalidSuperblock 2) ∧
    (smallRejecting.checkPayee (ChainLock.poison .small) (smallFilled 2 400) 2 400 400).outcome
      .wide = .error (.invalidSuperblock 2) := by
  have htx : smallPaidBlock.paymentTransaction? = some (smallFilled 2 400) := rfl
  have hnone : smallRejecting.grants.grantAt? 2 = none := rfl
  have hcycle : smallRejecting.consensus.IsCycleHeight 2 := by decide
  have hagree (lock : ChainLock) := superblock_verdicts_agree rfl htx hnone hcycle lock 400 400 .wide
  have hvalue : (smallRejecting.checkValue smallPaidBlock 2 400 400).outcome .wide =
      .error (.invalidSuperblock 2) := rfl
  exact ⟨rfl, htx, hnone, hcycle, rfl, hvalue, (hagree .small).2.1 2 hvalue,
    (hagree (ChainLock.poison .small)).2.1 2 hvalue⟩

end Paymaster.World
