import Mathlib.Logic.Relation
import Paymaster.Proofs.Address.Codec
import Paymaster.Proofs.Payment.Verification
import Paymaster.Proofs.Script.Form
import Paymaster.Proofs.Template.Completion
/-!
# Verdicts depend on paid destinations

The transaction check sees which destinations a transaction pays and nothing else of
it. So outputs can be reordered, repeated, revalued or paid in another script form,
and more destinations never harm a transaction that passes. A refusal names the
first scheduled output that is not paid.
-/
namespace Paymaster.World

/-- A change of outputs that does not touch the destinations they pay: another order, an output once
more, another amount, an output that pays no destination, or a public key paid by its hash. -/
inductive Reshapes (world : World) : List Output → List Output → Prop
  | reorder {left right : List Output} : left.Perm right → Reshapes world left right
  | repeated {output : Output} {outputs : List Output} :
    output ∈ outputs → Reshapes world outputs (output :: outputs)
  | revalue (output : Output) (value : Amount) (outputs : List Output) :
    Reshapes world (output :: outputs) ({ output with value } :: outputs)
  | unresolvable {output : Output} (outputs : List Output) :
    world.destination? output.script = none → Reshapes world outputs (output :: outputs)
  | keyHashed {key : Bytes} (value : Amount) (outputs : List Output) :
    Script.IsPublicKey key →
    Reshapes world (⟨value, Script.payToPublicKey key⟩ :: outputs)
      (⟨value, Script.payToKeyHash (world.hashing.keyHash key)⟩ :: outputs)

variable {world : World}

private theorem mem_paid_iff {tx : Transaction} {destination : Destination} :
    destination ∈ world.paid tx ↔
      ∃ output ∈ tx.outputs, world.destination? output.script = some destination :=
  List.mem_filterMap

private theorem paysScript_iff {tx : Transaction} {script : Bytes} :
    world.PaysScript tx script ↔
      ∃ destination, world.destination? script = some destination ∧ destination ∈ world.paid tx := by
  simp only [PaysScript, mem_paid_iff]

private theorem PaysScript.mono {left right : Transaction} (h : world.paid left ⊆ world.paid right)
    {script : Bytes} (hpays : world.PaysScript left script) : world.PaysScript right script := by
  obtain ⟨destination, hscript, hpaid⟩ := paysScript_iff.mp hpays
  exact paysScript_iff.mpr ⟨destination, hscript, h hpaid⟩

private theorem Reshapes.pays_iff {left right : List Output} (h : world.Reshapes left right)
    (destination : Destination) :
    (∃ output ∈ left, world.destination? output.script = some destination) ↔
      ∃ output ∈ right, world.destination? output.script = some destination := by
  cases h with
  | reorder hperm => simp only [hperm.mem_iff]
  | repeated hmem =>
    constructor
    · rintro ⟨output, houtput, hpays⟩
      exact ⟨output, List.mem_cons_of_mem _ houtput, hpays⟩
    · rintro ⟨output, houtput, hpays⟩
      rcases List.mem_cons.mp houtput with rfl | hold
      · exact ⟨output, hmem, hpays⟩
      · exact ⟨output, hold, hpays⟩
  | revalue output value outputs => simp only [List.exists_mem_cons_iff]
  | unresolvable outputs hnone => simp [hnone]
  | keyHashed value outputs hkey =>
    simp only [List.exists_mem_cons_iff, World.destination?, Script.destination?_payToPublicKey _ hkey,
      Script.destination?_payToKeyHash]

private theorem pays_iff_of_reshapes {left right : List Output}
    (h : Relation.EqvGen world.Reshapes left right) (destination : Destination) :
    (∃ output ∈ left, world.destination? output.script = some destination) ↔
      ∃ output ∈ right, world.destination? output.script = some destination := by
  induction h with
  | rel left right h => exact h.pays_iff destination
  | refl outputs => exact Iff.rfl
  | symm left right _ ih => exact ih.symm
  | trans left middle right _ _ ihleft ihright => exact ihleft.trans ihright

private theorem checkScheduled_congr {left right : List Destination} (h : ∀ d, d ∈ left ↔ d ∈ right)
    (height : Height) (outputs : List Output) :
    world.checkScheduled left height outputs = world.checkScheduled right height outputs := by
  induction outputs with
  | nil => rfl
  | cons output rest ih =>
    rw [checkScheduled, checkScheduled]
    cases world.destination? output.script with
    | none => rfl
    | some destination => simp only [h destination, ih]

theorem checkTransaction_congr {left right : Transaction}
    (h : ∀ d, d ∈ world.paid left ↔ d ∈ world.paid right) (lock : ChainLock) (height : Height)
    (expected : Amount) :
    world.checkTransaction lock left height expected =
      world.checkTransaction lock right height expected := by
  have hscheduled (outputs : List Output) :
      world.checkScheduled (world.paid left) height outputs =
        world.checkScheduled (world.paid right) height outputs :=
    checkScheduled_congr h height outputs
  simp only [checkTransaction, hscheduled]

theorem findSome?_scheduledFault?_eq_none_iff {tx : Transaction} {height : Height}
    {outputs : List Output} :
    outputs.findSome? (world.scheduledFault? (world.paid tx) height) = none ↔
      ∀ output ∈ outputs, world.PaysScript tx output.script := by
  simp only [List.findSome?_eq_none_iff, scheduledFault?_eq_none_iff]

private theorem scheduledFault?_eq_missing_iff {paid : List Destination} {height found : Height}
    {output : Output} {payee : String} :
    world.scheduledFault? paid height output = some (.missingMasternodePayment found payee) ↔
      found = height ∧ ∃ destination, world.destination? output.script = some destination ∧
        destination ∉ paid ∧ payee = world.address destination := by
  rw [scheduledFault?]
  cases world.destination? output.script with
  | none => simp
  | some destination =>
    by_cases hpaid : destination ∈ paid
    · simp [hpaid]
    · simp [hpaid, eq_comm]

/-- The check goes through the outputs of a schedule, or it does not look at the transaction. -/
private theorem checkTransaction_cases (world : World) (lock : ChainLock) (height : Height)
    (expected : Amount) :
    (∃ outputs, world.schedule lock height expected = .ok (.payees outputs) ∧
      ∀ tx gate, (world.checkTransaction lock tx height expected).outcome gate =
        (outputs.findSome? (world.scheduledFault? (world.paid tx) height)).elim
          (.ok .verified) .error) ∨
    ∃ result, (∀ e, result = .error e → e = .chainLockPoisoned) ∧
      ∀ tx gate, (world.checkTransaction lock tx height expected).outcome gate = result := by
  simp only [outcome_checkTransaction]
  by_cases hearly : height < world.consensus.paymentsStart
  · exact .inr ⟨.ok (.unverified .beforeActivation), nofun, fun _ _ => if_pos hearly⟩
  · simp only [if_neg hearly]
    cases hschedule : world.schedule lock height expected with
    | error e =>
      refine .inr ⟨_, ?_, fun _ _ => rfl⟩
      rintro _ ⟨⟩
      exact (schedule_eq_error_iff.mp hschedule).2
    | ok schedule =>
      cases schedule with
      | unavailable gap => exact .inr ⟨.ok (.unverified (.gap gap)), nofun, fun _ _ => rfl⟩
      | payees outputs =>
        refine .inl ⟨outputs, rfl, fun tx _ => ?_⟩
        dsimp only
        cases outputs.findSome? (world.scheduledFault? (world.paid tx) height) <;> rfl

theorem checkTransaction_ok_mono {left right : Transaction} (h : world.paid left ⊆ world.paid right)
    {lock : ChainLock} {height : Height} {expected : Amount} {gate : Gate} {acceptance : Acceptance}
    (hok : (world.checkTransaction lock left height expected).outcome gate = .ok acceptance) :
    (world.checkTransaction lock right height expected).outcome gate = .ok acceptance := by
  rcases world.checkTransaction_cases lock height expected with
    ⟨outputs, _, hverdict⟩ | ⟨result, _, hsame⟩
  · rw [hverdict] at hok ⊢
    cases hleft : outputs.findSome? (world.scheduledFault? (world.paid left) height) with
    | some e =>
      rw [hleft] at hok
      cases hok
    | none =>
      have hright : outputs.findSome? (world.scheduledFault? (world.paid right) height) = none := by
        rw [findSome?_scheduledFault?_eq_none_iff] at hleft ⊢
        exact fun output houtput => PaysScript.mono h (hleft output houtput)
      rw [hleft] at hok
      rw [hright]
      exact hok
  · rwa [hsame] at hok ⊢

theorem first_unpaid_of_missing {tx : Transaction} {lock : ChainLock} {height found : Height}
    {expected : Amount} {gate : Gate} {payee : String}
    (h : (world.checkTransaction lock tx height expected).outcome gate =
      .error (.missingMasternodePayment found payee)) :
    found = height ∧ ∃ before output after destination,
      world.schedule lock height expected = .ok (.payees (before ++ output :: after)) ∧
      (∀ earlier ∈ before, world.PaysScript tx earlier.script) ∧
      world.destination? output.script = some destination ∧ destination ∉ world.paid tx ∧
      payee = world.address destination := by
  rcases world.checkTransaction_cases lock height expected with
    ⟨outputs, hschedule, hverdict⟩ | ⟨result, herror, hsame⟩
  · rw [hverdict] at h
    cases hfault : outputs.findSome? (world.scheduledFault? (world.paid tx) height) with
    | none =>
      rw [hfault] at h
      cases h
    | some e =>
      rw [hfault] at h
      cases h
      obtain ⟨before, output, after, rfl, houtput, hbefore⟩ := List.findSome?_eq_some_iff.mp hfault
      obtain ⟨hheight, destination, hdestination, hunpaid, hpayee⟩ :=
        scheduledFault?_eq_missing_iff.mp houtput
      refine ⟨hheight, before, output, after, destination, hschedule, ?_, hdestination, hunpaid,
        hpayee⟩
      intro earlier hearlier
      exact scheduledFault?_eq_none_iff.mp (hbefore earlier hearlier)
  · cases herror _ ((hsame tx gate).symm.trans h)

/-- The transaction check sees of a transaction which destinations it pays, and nothing else. Equal
destinations give the same verdict and the same messages, and so do any changes of the outputs that do
not touch the destinations; to pay more of them takes no acceptance away. A refusal for a missing
payment names the address of the first scheduled output that is not paid. -/
theorem checkTransaction_sees_destinations (world : World) (lock : ChainLock) (height : Height)
    (expected : Amount) :
    let check (tx : Transaction) := world.checkTransaction lock tx height expected
    (∀ left right, (∀ d, d ∈ world.paid left ↔ d ∈ world.paid right) → check left = check right) ∧
    (∀ left right : Transaction, Relation.EqvGen world.Reshapes left.outputs right.outputs →
      check left = check right) ∧
    (∀ left right gate acceptance, world.paid left ⊆ world.paid right →
      (check left).outcome gate = .ok acceptance → (check right).outcome gate = .ok acceptance) ∧
    (∀ tx gate found payee,
      (check tx).outcome gate = .error (.missingMasternodePayment found payee) →
      found = height ∧ ∃ before output after destination,
        world.schedule lock height expected = .ok (.payees (before ++ output :: after)) ∧
        (∀ earlier ∈ before, world.PaysScript tx earlier.script) ∧
        ¬ world.PaysScript tx output.script ∧
        world.destination? output.script = some destination ∧
        Address.decode world.hashing world.network payee = .ok destination) := by
  intro check
  refine ⟨?_, ?_, ?_, ?_⟩
  · intro left right h
    exact checkTransaction_congr h lock height expected
  · intro left right h
    apply checkTransaction_congr
    intro destination
    rw [mem_paid_iff, mem_paid_iff, pays_iff_of_reshapes h]
  · intro left right gate acceptance h hok
    exact checkTransaction_ok_mono h hok
  · intro tx gate found payee h
    obtain ⟨hheight, before, output, after, destination, hschedule, hbefore, hdestination, hunpaid,
      rfl⟩ := first_unpaid_of_missing h
    refine ⟨hheight, before, output, after, destination, hschedule, hbefore, ?_, hdestination,
      Address.decode_eq_ok_iff.mpr rfl⟩
    intro hpays
    obtain ⟨other, hother, hpaid⟩ := paysScript_iff.mp hpays
    cases hdestination.symm.trans hother
    exact hunpaid hpaid

/-- The small world owes the owner 150 at its superblock height, and the operator 50. -/
def smallOwed : List Output :=
  [⟨150, Script.payToKeyHash (.zero 20)⟩, ⟨50, Script.payToScriptHash (.zero 20)⟩]

/-- A transaction that pays nobody is refused for the owner, whose address the refusal names. One that
pays both is verified, and so is the completed one, which pays the miner and the superblock besides. -/
theorem checkTransaction_sees_destinations_small :
    let payee := small.address (.key (.zero 20))
    (small.checkTransaction .small .empty 2 400).outcome .wide =
      .error (.missingMasternodePayment 2 payee) ∧
    Address.decode small.hashing small.network payee = .ok (.key (.zero 20)) ∧
    (small.checkTransaction .small ⟨[], smallOwed, 1, 0⟩ 2 400).outcome .wide = .ok .verified ∧
    (small.checkTransaction .small (smallFilled 2 400) 2 400).outcome .wide = .ok .verified := by
  intro payee
  obtain ⟨_, _, hmono, hmissing⟩ := checkTransaction_sees_destinations small .small 2 400
  have hrefused : (small.checkTransaction .small .empty 2 400).outcome .wide =
      .error (.missingMasternodePayment 2 payee) := rfl
  have hverified : (small.checkTransaction .small ⟨[], smallOwed, 1, 0⟩ 2 400).outcome .wide =
      .ok .verified := rfl
  have hmore : small.paid ⟨[], smallOwed, 1, 0⟩ ⊆ small.paid (smallFilled 2 400) := by decide
  refine ⟨hrefused, ?_, hverified, hmono _ _ _ _ hmore hverified⟩
  obtain ⟨_, before, output, after, destination, hschedule, hbefore, _, hdestination, hdecode⟩ :=
    hmissing .empty .wide 2 payee hrefused
  have howed : small.schedule .small 2 400 = .ok (.payees smallOwed) := rfl
  rw [howed, Except.ok.injEq, Schedule.payees.injEq] at hschedule
  cases before with
  | nil =>
    cases hschedule
    cases hdestination
    exact hdecode
  | cons earlier rest =>
    obtain ⟨_, _, _, hnone, _⟩ := hbefore earlier List.mem_cons_self
    cases hnone

end Paymaster.World
