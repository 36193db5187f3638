import Paymaster.Proofs.Grant.Recipient
import Paymaster.Proofs.Payment.Verification
import Paymaster.Proofs.Template.Completion
/-!
# Templates before the payee check

A completed transaction pays the grant at least once and every scheduled output,
so the payee check never misses a payment in it. What is left to refuse is a second
payment of the grant, a superblock that governance rejects and a scheduled script
without destination.
-/
namespace Paymaster

private theorem Grant.paysGrant_output (grant : Grant) :
    World.paysGrant grant.amount grant.output = true :=
  World.paysGrant_eq_true_iff.mpr
    ⟨rfl, Grant.namesRecipient_of_infix ⟨Script.keyHashFrame.1, Script.keyHashFrame.2, rfl⟩⟩

/-- The acceptance of a transaction that pays all of a schedule. -/
def Schedule.acceptance : Schedule → Acceptance
  | .payees _ => .verified
  | .unavailable gap => .unverified (.gap gap)

namespace World

/-- The first output whose script has no destination. -/
def unresolved? (world : World) (outputs : List Output) : Option Output :=
  outputs.find? fun output => (world.destination? output.script).isNone

theorem unresolved?_eq_none_iff {world : World} {outputs : List Output} :
    world.unresolved? outputs = none ↔
      ∀ output ∈ outputs, (world.destination? output.script).isSome = true := by
  simp [unresolved?, Option.isSome_iff_ne_none]

private theorem scheduledFault?_of_mem {world : World} {tx : Transaction} {height : Height}
    {output : Output} (h : output ∈ tx.outputs) :
    world.scheduledFault? (world.paid tx) height output =
      if (world.destination? output.script).isNone then
        some (.unresolvableDestination output.scriptText)
      else none := by
  rw [scheduledFault?]
  cases hd : world.destination? output.script with
  | none => rfl
  | some destination =>
    have hpaid : destination ∈ world.paid tx := List.mem_filterMap.mpr ⟨output, h, hd⟩
    simp [hpaid]

private theorem findSome?_scheduledFault? (world : World) (height : Height) {tx : Transaction}
    {outputs : List Output} (h : ∀ output ∈ outputs, output ∈ tx.outputs) :
    outputs.findSome? (world.scheduledFault? (world.paid tx) height) =
      (world.unresolved? outputs).map fun output => .unresolvableDestination output.scriptText := by
  induction outputs with
  | nil => rfl
  | cons output rest ih =>
    have hrest := ih fun o ho => h o (List.mem_cons_of_mem _ ho)
    rw [unresolved?] at hrest ⊢
    rw [List.findSome?_cons, List.find?_cons, scheduledFault?_of_mem (h output List.mem_cons_self)]
    cases (world.destination? output.script).isNone with
    | true => rfl
    | false => exact hrest

private theorem outcome_checkTransaction_of_paid {world : World} {lock : ChainLock} {tx : Transaction}
    {height : Height} {expected : Amount} {schedule : Schedule}
    (hschedule : world.schedule lock height expected = .ok schedule)
    (hpaid : ∀ output ∈ schedule.outputs, output ∈ tx.outputs) (gate : Gate) :
    (world.checkTransaction lock tx height expected).outcome gate =
      if height < world.consensus.paymentsStart then .ok (.unverified .beforeActivation)
      else
        match world.unresolved? schedule.outputs with
        | some output => .error (.unresolvableDestination output.scriptText)
        | none => .ok schedule.acceptance := by
  rw [outcome_checkTransaction, hschedule]
  split
  · rfl
  · cases schedule with
    | unavailable gap => rfl
    | payees outputs =>
      have hfault := findSome?_scheduledFault? world height hpaid
      dsimp only [Schedule.outputs, Schedule.acceptance] at hfault ⊢
      rw [hfault]
      cases world.unresolved? outputs <;> rfl

section Fill

variable {world : World} {lock : ChainLock} {tx filled : Transaction} {height : Height}
  {expected : Amount} {payments : BlockPayments} {gate : Gate}

private theorem schedule_of_fill
    (h : (world.fill lock height expected).outcome tx gate = (.ok payments, filled)) :
    ∃ schedule, world.schedule lock height expected = .ok schedule ∧
      schedule.outputs = payments.masternode := by
  obtain ⟨_, hlock, rfl, _⟩ := fill_eq_ok_iff.mp h
  exact ⟨_, schedule_of_readable hlock world height expected, rfl⟩

private theorem outputs_of_fill
    (h : (world.fill lock height expected).outcome tx gate = (.ok payments, filled)) :
    ∃ front, front.length = tx.outputs.length ∧ filled.outputs =
      front ++ world.grantOutputs height ++ payments.masternode ++ payments.superblock := by
  obtain ⟨hminer, _, _, rfl⟩ := fill_eq_ok_iff.mp h
  obtain ⟨first, miner, rest, houtputs⟩ := Transaction.exists_miner hminer
  refine ⟨first :: { miner with value := miner.value - payments.masternodeTotal } :: rest, ?_, ?_⟩
  · rw [houtputs]
    rfl
  · rw [outputs_complete houtputs]
    rfl

private theorem masternode_subset_of_fill
    (h : (world.fill lock height expected).outcome tx gate = (.ok payments, filled)) :
    ∀ output ∈ payments.masternode, output ∈ filled.outputs := by
  obtain ⟨front, _, houtputs⟩ := outputs_of_fill h
  intro output howed
  rw [houtputs]
  exact List.mem_append_left _ (List.mem_append_right _ howed)

private theorem grant_output_of_fill {grant : Grant}
    (h : (world.fill lock height expected).outcome tx gate = (.ok payments, filled))
    (hgrant : world.grants.grantAt? height = some grant) :
    filled.outputs[tx.outputs.length]? = some grant.output := by
  obtain ⟨front, hlength, houtputs⟩ := outputs_of_fill h
  rw [houtputs, ← hlength]
  simp [grantOutputs, hgrant]

private theorem outcome_checkPayee_of_fill
    (h : (world.fill lock height expected).outcome tx gate = (.ok payments, filled))
    (hnone : world.grants.grantAt? height = none) (actual : Amount) (gate' : Gate) :
    ∃ schedule, world.schedule lock height expected = .ok schedule ∧
      (world.checkPayee lock filled height expected actual).outcome gate' =
        if world.lite then .ok (.unverified .liteMode)
        else if world.rejectsSuperblock filled height expected actual then
          .error (.invalidSuperblock height)
        else if height < world.consensus.paymentsStart then .ok (.unverified .beforeActivation)
        else
          match world.unresolved? payments.masternode with
          | some output => .error (.unresolvableDestination output.scriptText)
          | none => .ok schedule.acceptance := by
  obtain ⟨schedule, hschedule, howed⟩ := schedule_of_fill h
  have hpaid := masternode_subset_of_fill h
  refine ⟨schedule, hschedule, ?_⟩
  rw [← howed] at hpaid ⊢
  rw [outcome_checkPayee_of_no_grant hnone, outcome_checkTransaction_of_paid hschedule hpaid]

private theorem checkPayee_error_iff_of_fill
    (h : (world.fill lock height expected).outcome tx gate = (.ok payments, filled))
    (hnone : world.grants.grantAt? height = none) (actual : Amount) (gate' : Gate) (e : PaymentError) :
    (world.checkPayee lock filled height expected actual).outcome gate' = .error e ↔
      world.lite = false ∧
        (world.rejectsSuperblock filled height expected actual = true ∧ e = .invalidSuperblock height ∨
          ¬ world.rejectsSuperblock filled height expected actual = true ∧
            world.consensus.paymentsStart ≤ height ∧
            ∃ output, world.unresolved? payments.masternode = some output ∧
              e = .unresolvableDestination output.scriptText) := by
  obtain ⟨schedule, _, hverdict⟩ := outcome_checkPayee_of_fill h hnone actual gate'
  rw [hverdict, ← Int32.not_lt]
  cases world.lite with
  | true => simp
  | false =>
    cases world.rejectsSuperblock filled height expected actual with
    | true => simp [eq_comm]
    | false =>
      by_cases hstart : height < world.consensus.paymentsStart
      · simp [hstart]
      · cases world.unresolved? payments.masternode <;> simp [hstart, eq_comm]

private theorem checkPayee_verified_iff_of_fill
    (h : (world.fill lock height expected).outcome tx gate = (.ok payments, filled))
    (hnone : world.grants.grantAt? height = none) (actual : Amount) (gate' : Gate) :
    (world.checkPayee lock filled height expected actual).outcome gate' = .ok .verified ↔
      world.lite = false ∧ ¬ world.rejectsSuperblock filled height expected actual = true ∧
        world.consensus.paymentsStart ≤ height ∧
        (∃ outputs, world.schedule lock height expected = .ok (.payees outputs)) ∧
        ∀ output ∈ payments.masternode, (world.destination? output.script).isSome = true := by
  obtain ⟨schedule, hschedule, hverdict⟩ := outcome_checkPayee_of_fill h hnone actual gate'
  rw [hverdict, hschedule, ← Int32.not_lt, ← unresolved?_eq_none_iff]
  cases world.lite with
  | true => simp
  | false =>
    cases world.rejectsSuperblock filled height expected actual with
    | true => simp
    | false =>
      by_cases hstart : height < world.consensus.paymentsStart
      · simp [hstart]
      · cases world.unresolved? payments.masternode <;> cases schedule <;>
          simp [hstart, Schedule.acceptance]

private theorem checkPayee_grant_verified_iff_of_fill {grant : Grant}
    (h : (world.fill lock height expected).outcome tx gate = (.ok payments, filled))
    (hgrant : world.grants.grantAt? height = some grant) (actual : Amount) (gate' : Gate) :
    (world.checkPayee lock filled height expected actual).outcome gate' = .ok .verified ↔
      ∀ i, i ≠ tx.outputs.length → ∀ output, filled.outputs[i]? = some output →
        ¬ (output.value = grant.amount ∧ Grant.namesRecipient output.scriptText = true) := by
  have hplace := grant_output_of_fill h hgrant
  rw [checkPayee_verified_iff_of_grant hgrant,
    countP_eq_one_iff_of_getElem? hplace grant.paysGrant_output]
  simp only [← paysGrant_eq_true_iff, Bool.not_eq_true]

private theorem checkPayee_grant_cases_of_fill {grant : Grant}
    (h : (world.fill lock height expected).outcome tx gate = (.ok payments, filled))
    (hgrant : world.grants.grantAt? height = some grant) (actual : Amount) (gate' : Gate) :
    (world.checkPayee lock filled height expected actual).outcome gate' = .ok .verified ∨
      ∃ found, 2 ≤ found ∧ (world.checkPayee lock filled height expected actual).outcome gate' =
        .error (.invalidGrantPayment height found) := by
  have hplace := grant_output_of_fill h hgrant
  have hpos : 0 < filled.outputs.countP (paysGrant grant.amount) :=
    List.countP_pos_iff.mpr ⟨grant.output, List.mem_of_getElem? hplace, grant.paysGrant_output⟩
  rw [outcome_checkPayee_of_grant hgrant]
  by_cases hone : filled.outputs.countP (paysGrant grant.amount) = 1
  · exact .inl (if_pos hone)
  · exact .inr ⟨_, by omega, if_neg hone⟩

end Fill

/-- The payee check finds every payment in a completed transaction. At a grant height it verifies
it unless a second output pays the grant; elsewhere it refuses it exactly for a superblock that
governance rejects or for a scheduled script without destination, and verifies it exactly if no
check is skipped, a schedule is known and all its scripts have destinations. -/
theorem checkPayee_of_fill (world : World) (lock : ChainLock) (tx filled : Transaction)
    (payments : BlockPayments) (height : Height) (expected actual : Amount) (gate gate' : Gate)
    (h : (world.fill lock height expected).outcome tx gate = (.ok payments, filled)) :
    let verdict := (world.checkPayee lock filled height expected actual).outcome gate'
    let rejected := world.superblockState height = .triggered ∧
      world.governance.accepts filled height actual expected = false
    (∀ height' payee, verdict ≠ .error (.missingMasternodePayment height' payee)) ∧
    (∀ height', verdict ≠ .error (.invalidGrantPayment height' 0)) ∧
    (∀ grant, world.grants.grantAt? height = some grant →
      filled.outputs[tx.outputs.length]? = some grant.output ∧
      (verdict = .ok .verified ↔
        ∀ i, i ≠ tx.outputs.length → ∀ output, filled.outputs[i]? = some output →
          ¬ (output.value = grant.amount ∧ Grant.namesRecipient output.scriptText = true)) ∧
      (verdict ≠ .ok .verified →
        ∃ found, 2 ≤ found ∧ verdict = .error (.invalidGrantPayment height found))) ∧
    (world.grants.grantAt? height = none →
      (∀ e, verdict = .error e ↔ world.lite = false ∧
        (rejected ∧ e = .invalidSuperblock height ∨
          ¬ rejected ∧ world.consensus.paymentsStart ≤ height ∧
            ∃ output, world.unresolved? payments.masternode = some output ∧
              e = .unresolvableDestination output.scriptText)) ∧
      (verdict = .ok .verified ↔ world.lite = false ∧ ¬ rejected ∧
        world.consensus.paymentsStart ≤ height ∧
        (∃ outputs, world.schedule lock height expected = .ok (.payees outputs)) ∧
        ∀ output ∈ payments.masternode, (world.destination? output.script).isSome = true)) := by
  intro verdict rejected
  have hrejected : world.rejectsSuperblock filled height expected actual = true ↔ rejected :=
    rejectsSuperblock_eq_true_iff
  cases hgrant : world.grants.grantAt? height with
  | some grant =>
    have hverified := checkPayee_grant_verified_iff_of_fill h hgrant actual gate'
    have hcases := checkPayee_grant_cases_of_fill h hgrant actual gate'
    refine ⟨?_, ?_, ?_, nofun⟩
    · intro height' payee hmissing
      rcases hcases with hok | ⟨found, _, hrefused⟩
      · cases hmissing.symm.trans hok
      · cases hmissing.symm.trans hrefused
    · intro height' hinvalid
      rcases hcases with hok | ⟨found, hfound, hrefused⟩
      · cases hinvalid.symm.trans hok
      · cases hinvalid.symm.trans hrefused
        omega
    · rintro grant' ⟨⟩
      exact ⟨grant_output_of_fill h hgrant, hverified, hcases.resolve_left⟩
  | none =>
    have herror := checkPayee_error_iff_of_fill h hgrant actual gate'
    have hverified := checkPayee_verified_iff_of_fill h hgrant actual gate'
    simp only [hrejected] at herror hverified
    refine ⟨?_, ?_, nofun, fun _ => ⟨herror, hverified⟩⟩
    · intro height' payee hmissing
      obtain ⟨_, ⟨_, he⟩ | ⟨_, _, _, _, he⟩⟩ := (herror _).mp hmissing <;> cases he
    · intro height' hinvalid
      obtain ⟨_, ⟨_, he⟩ | ⟨_, _, _, _, he⟩⟩ := (herror _).mp hinvalid <;> cases he

/-- In the small world a superblock template is verified, and a miner's output that is left with
the amount of the grant and pays to its recipient spoils a grant template. -/
theorem checkPayee_of_fill_small :
    (small.fill .small 2 400).outcome .small .wide = (.ok (smallPayments 2 400), smallFilled 2 400) ∧
    (small.checkPayee .small (smallFilled 2 400) 2 400 460).outcome .wide = .ok .verified ∧
    (small.fill .small 3 786).outcome .small .wide = (.ok (smallPayments 3 786), smallFilled 3 786) ∧
    ∃ found, 2 ≤ found ∧ (small.checkPayee .small (smallFilled 3 786) 3 786 786).outcome .wide =
      .error (.invalidGrantPayment 3 found) := by
  have hsuper := checkPayee_of_fill small .small .small _ _ 2 400 460 .wide .wide (fill_small 2 400 _)
  have hgrant := checkPayee_of_fill small .small .small _ _ 3 786 786 .wide .wide (fill_small 3 786 _)
  refine ⟨fill_small 2 400 _, ?_, fill_small 3 786 _, ?_⟩
  · exact (hsuper.2.2.2 rfl).2.mpr ⟨rfl, by decide, by decide, ⟨_, rfl⟩, by decide⟩
  · obtain ⟨_, hverified, hrefused⟩ := hgrant.2.2.1 ⟨3, 7⟩ rfl
    apply hrefused
    intro hok
    have hminer := hverified.mp hok 1 (by decide) ⟨7, Grant.script⟩ (by decide)
    exact hminer (paysGrant_eq_true_iff.mp (Grant.paysGrant_output ⟨3, 7⟩))

end World

end Paymaster
