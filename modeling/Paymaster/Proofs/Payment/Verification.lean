import Paymaster.Proofs.Payment.Outcome
/-!
# What a verified payment means

Payments count as verified only when all data was there and every owed share is
paid: a grant by exactly one output, a masternode reward by some output for each
positive share. Everything else is unverified or an error.
-/
namespace Paymaster

private theorem holdsAt_zero {α : Type} {p : α → Bool} {a : α} {l : List α} :
    (∃ x, (a :: l)[0]? = some x ∧ p x = true) ↔ p a = true := by
  simp

private theorem countP_eq_one_iff {α : Type} {p : α → Bool} {l : List α} :
    l.countP p = 1 ↔ ∃ i : Nat, ∀ j : Nat, (∃ x, l[j]? = some x ∧ p x = true) ↔ j = i := by
  induction l with
  | nil =>
    refine ⟨nofun, fun ⟨i, hi⟩ => ?_⟩
    obtain ⟨x, hx, _⟩ := (hi i).mpr rfl
    simp at hx
  | cons a l ih =>
    by_cases ha : p a = true
    · rw [List.countP_cons_of_pos ha]
      constructor
      · intro hcount
        have hnone := List.countP_eq_zero.mp (Nat.succ.inj hcount)
        refine ⟨0, fun j => ?_⟩
        cases j with
        | zero => simp [ha]
        | succ j =>
          simp only [List.getElem?_cons_succ, Nat.succ_ne_zero, iff_false]
          intro ⟨x, hx, hp⟩
          exact hnone x (List.mem_of_getElem? hx) hp
      · intro ⟨i, hi⟩
        have hzero : 0 = i := (hi 0).mp (holdsAt_zero.mpr ha)
        have hnone : l.countP p = 0 := by
          apply List.countP_eq_zero.mpr
          intro x hx hp
          obtain ⟨j, hj⟩ := List.mem_iff_getElem?.mp hx
          have hsucc := (hi (j + 1)).mp ⟨x, by simpa using hj, hp⟩
          omega
        omega
    · rw [List.countP_cons_of_neg ha, ih]
      constructor
      · intro ⟨i, hi⟩
        refine ⟨i + 1, fun j => ?_⟩
        cases j with
        | zero => simp [ha]
        | succ j => simpa using hi j
      · intro ⟨i, hi⟩
        cases i with
        | zero => exact absurd (holdsAt_zero.mp ((hi 0).mpr rfl)) ha
        | succ i => exact ⟨i, fun j => by simpa using hi (j + 1)⟩

theorem countP_eq_one_iff_of_getElem? {α : Type} {p : α → Bool} {l : List α} {n : Nat} {a : α}
    (ha : l[n]? = some a) (hp : p a = true) :
    l.countP p = 1 ↔ ∀ i, i ≠ n → ∀ x, l[i]? = some x → p x = false := by
  rw [countP_eq_one_iff]
  constructor
  · intro ⟨k, hk⟩ i hi x hx
    have hn : n = k := (hk n).mp ⟨a, ha, hp⟩
    apply Bool.eq_false_iff.mpr
    intro hpx
    exact hi (((hk i).mp ⟨x, hx, hpx⟩).trans hn.symm)
  · intro honly
    refine ⟨n, fun j => ⟨?_, ?_⟩⟩
    · intro ⟨x, hx, hpx⟩
      apply Decidable.byContradiction
      intro hj
      rw [honly j hj x hx] at hpx
      cases hpx
    · rintro rfl
      exact ⟨a, ha, hp⟩

namespace World

/-- The script has a destination, and some output of the transaction pays to the same one. -/
def PaysScript (world : World) (tx : Transaction) (script : Bytes) : Prop :=
  ∃ destination, world.destination? script = some destination ∧
    ∃ output ∈ tx.outputs, world.destination? output.script = some destination

theorem scheduledFault?_eq_none_iff {world : World} {tx : Transaction} {height : Height}
    {output : Output} :
    world.scheduledFault? (world.paid tx) height output = none ↔ world.PaysScript tx output.script := by
  rw [scheduledFault?, PaysScript]
  cases world.destination? output.script with
  | none => simp
  | some destination =>
    have hmem : destination ∈ world.paid tx ↔
        ∃ paying ∈ tx.outputs, world.destination? paying.script = some destination :=
      List.mem_filterMap
    by_cases hpaid : destination ∈ world.paid tx
    · simpa [hpaid] using hmem.mp hpaid
    · simpa [hpaid] using fun h => hpaid (hmem.mpr h)

theorem checkTransaction_verified_iff {world : World} {lock : ChainLock} {tx : Transaction}
    {height : Height} {expected : Amount} {gate : Gate} :
    (world.checkTransaction lock tx height expected).outcome gate = .ok .verified ↔
      world.consensus.paymentsStart ≤ height ∧ lock.poisoned = false ∧
        ∃ outputs, world.scheduleOn lock.chain height expected = .payees outputs ∧
          ∀ output ∈ outputs, world.PaysScript tx output.script := by
  rw [outcome_checkTransaction]
  by_cases hstart : height < world.consensus.paymentsStart
  · simp [hstart, Int32.not_le.mpr hstart]
  · have hactive := Int32.not_lt.mp hstart
    simp only [hstart, hactive, if_false, true_and]
    cases hlock : lock.poisoned with
    | true => simp [schedule_of_poisoned hlock]
    | false =>
      rw [schedule_of_readable hlock]
      cases world.scheduleOn lock.chain height expected with
      | unavailable gap => simp
      | payees outputs =>
        have hfault : outputs.findSome? (world.scheduledFault? (world.paid tx) height) = none ↔
            ∀ output ∈ outputs, world.PaysScript tx output.script := by
          simp only [List.findSome?_eq_none_iff, scheduledFault?_eq_none_iff]
        simp only [Schedule.payees.injEq, exists_eq_left', ← hfault]
        cases outputs.findSome? (world.scheduledFault? (world.paid tx) height) <;> simp

theorem paysGrant_eq_true_iff {amount : Amount} {output : Output} :
    paysGrant amount output = true ↔
      output.value = amount ∧ Grant.namesRecipient output.scriptText = true := by
  simp [paysGrant]

theorem checkPayee_verified_iff_of_grant {world : World} {height : Height} {grant : Grant}
    (hgrant : world.grants.grantAt? height = some grant) (lock : ChainLock) (tx : Transaction)
    (expected actual : Amount) (gate : Gate) :
    (world.checkPayee lock tx height expected actual).outcome gate = .ok .verified ↔
      tx.outputs.countP (paysGrant grant.amount) = 1 := by
  rw [outcome_checkPayee_of_grant hgrant]
  split <;> simp [*]

private theorem checkPayee_verified_iff_of_no_grant {world : World} {height : Height}
    (hnone : world.grants.grantAt? height = none) (lock : ChainLock) (tx : Transaction)
    (expected actual : Amount) (gate : Gate) :
    (world.checkPayee lock tx height expected actual).outcome gate = .ok .verified ↔
      world.lite = false ∧ world.rejectsSuperblock tx height expected actual = false ∧
        (world.checkTransaction lock tx height expected).outcome gate = .ok .verified := by
  rw [outcome_checkPayee_of_no_grant hnone]
  cases world.lite <;> cases world.rejectsSuperblock tx height expected actual <;> simp

private theorem rejectsSuperblock_eq_false_iff {world : World} {tx : Transaction} {height : Height}
    {expected actual : Amount} :
    world.rejectsSuperblock tx height expected actual = false ↔
      (world.superblockState height = .triggered →
        world.governance.accepts tx height actual expected = true) := by
  simp [rejectsSuperblock]

/-- A payment is verified exactly if one output alone pays the grant of the height, or else if the
masternode owed there is known and each positive share of its reward is paid to the destination of
its script, nothing being skipped and no triggered superblock rejected. -/
theorem checkPayee_verified_iff (world : World) (lock : ChainLock) (tx : Transaction)
    (height : Height) (expected actual : Amount) (gate : Gate) :
    let verdict := (world.checkPayee lock tx height expected actual).outcome gate
    (verdict = .ok .verified ↔
      (∃ grant, world.grants.grantAt? height = some grant ∧
        ∃ i : Nat, ∀ j : Nat, (∃ output, tx.outputs[j]? = some output ∧
          output.value = grant.amount ∧ Grant.namesRecipient output.scriptText = true) ↔ j = i) ∨
      (world.grants.grantAt? height = none ∧ world.lite = false ∧
        (world.superblockState height = .triggered →
          world.governance.accepts tx height actual expected = true) ∧
        world.consensus.paymentsStart ≤ height ∧ lock.poisoned = false ∧
        ∃ block node, lock.chain.get? height.pred = some block ∧
          world.masternodes.payeeAfter block = some node ∧
          let split := RewardSplit.ofReward node (world.masternodeReward height expected)
          (0 < split.owner → world.PaysScript tx node.payout) ∧
          (0 < split.operator → world.PaysScript tx node.operatorPayout))) ∧
    (verdict ≠ .ok .verified →
      (∃ reason, verdict = .ok (.unverified reason)) ∨ ∃ e, verdict = .error e) := by
  intro verdict
  refine ⟨?_, ?_⟩
  · cases hgrant : world.grants.grantAt? height with
    | some grant =>
      rw [checkPayee_verified_iff_of_grant hgrant, countP_eq_one_iff]
      simp [paysGrant_eq_true_iff]
    | none =>
      rw [checkPayee_verified_iff_of_no_grant hgrant, checkTransaction_verified_iff,
        rejectsSuperblock_eq_false_iff]
      simp only [scheduleOn_eq_payees_iff]
      constructor
      · rintro ⟨hlite, hsuper, hstart, hlock, outputs, ⟨block, node, hblock, hnode, rfl⟩, hpaid⟩
        exact .inr ⟨trivial, hlite, hsuper, hstart, hlock, block, node, hblock, hnode,
          RewardSplit.forall_mem_outputs.mp hpaid⟩
      · rintro (⟨grant, hsome, _⟩ | ⟨_, hlite, hsuper, hstart, hlock, block, node, hblock, hnode, hpaid⟩)
        · cases hsome
        · exact ⟨hlite, hsuper, hstart, hlock, _, ⟨block, node, hblock, hnode, rfl⟩,
            RewardSplit.forall_mem_outputs.mpr hpaid⟩
  · intro hne
    cases hverdict : verdict with
    | error e => exact .inr ⟨e, rfl⟩
    | ok acceptance =>
      cases acceptance with
      | verified => exact absurd hverdict hne
      | unverified reason => exact .inl ⟨reason, rfl⟩

end World

end Paymaster
