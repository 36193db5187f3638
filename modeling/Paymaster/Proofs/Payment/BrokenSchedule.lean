import Paymaster.Proofs.Payment.PaidDestinations
import Paymaster.Proofs.Template.PayeeAcceptance
/-!
# Schedules with a broken script

A scheduled script without destination is a broken assumption of the checker, and no
transaction is accepted against such a schedule. But the check goes through the
outputs in their order: one before the broken script that is not paid ends it first,
with a refusal that blames the transaction.
-/
namespace Paymaster.World

variable {world : World}

private theorem outcome_checkTransaction_of_payees {lock : ChainLock} {height : Height}
    {expected : Amount} {outputs : List Output} (hactive : world.consensus.paymentsStart ≤ height)
    (hschedule : world.schedule lock height expected = .ok (.payees outputs)) (tx : Transaction)
    (gate : Gate) :
    (world.checkTransaction lock tx height expected).outcome gate =
      (outputs.findSome? (world.scheduledFault? (world.paid tx) height)).elim
        (.ok .verified) .error := by
  rw [outcome_checkTransaction, if_neg (Int32.not_lt.mpr hactive), hschedule]
  dsimp only
  cases outputs.findSome? (world.scheduledFault? (world.paid tx) height) <;> rfl

private theorem exists_first_broken {outputs : List Output}
    (h : ∃ output ∈ outputs, world.destination? output.script = none) :
    ∃ before broken after, outputs = before ++ broken :: after ∧
      (∀ earlier ∈ before, (world.destination? earlier.script).isSome = true) ∧
      world.destination? broken.script = none := by
  cases hfirst : world.unresolved? outputs with
  | none =>
    obtain ⟨output, houtput, hnone⟩ := h
    have hsome := unresolved?_eq_none_iff.mp hfirst output houtput
    rw [hnone] at hsome
    cases hsome
  | some broken =>
    obtain ⟨hbroken, before, after, houtputs, hbefore⟩ := List.find?_eq_some_iff_append.mp hfirst
    refine ⟨before, broken, after, houtputs, ?_, Option.isNone_iff_eq_none.mp hbroken⟩
    intro earlier hearlier
    simpa using hbefore earlier hearlier

/-- The fault that ends the check of a schedule: the broken script, or an unpaid output before it. -/
private theorem findSome?_scheduledFault?_of_broken (tx : Transaction) (height : Height)
    {before after : List Output} {broken : Output}
    (hbroken : world.destination? broken.script = none) :
    (before ++ broken :: after).findSome? (world.scheduledFault? (world.paid tx) height) =
      some ((before.findSome? (world.scheduledFault? (world.paid tx) height)).getD
        (.unresolvableDestination broken.scriptText)) := by
  have hfault : world.scheduledFault? (world.paid tx) height broken =
      some (.unresolvableDestination broken.scriptText) := by
    rw [scheduledFault?, hbroken]
  rw [List.findSome?_append, List.findSome?_cons, hfault]
  cases before.findSome? (world.scheduledFault? (world.paid tx) height) <;> rfl

private theorem first_unpaid_of_resolved {tx : Transaction} {height : Height} {outputs : List Output}
    {e : PaymentError}
    (hresolved : ∀ output ∈ outputs, (world.destination? output.script).isSome = true)
    (h : outputs.findSome? (world.scheduledFault? (world.paid tx) height) = some e) :
    ∃ front unpaid rest destination, outputs = front ++ unpaid :: rest ∧
      (∀ output ∈ front, world.PaysScript tx output.script) ∧
      ¬ world.PaysScript tx unpaid.script ∧
      world.destination? unpaid.script = some destination ∧
      e = .missingMasternodePayment height (world.address destination) := by
  obtain ⟨front, unpaid, rest, rfl, hunpaid, hfront⟩ := List.findSome?_eq_some_iff.mp h
  obtain ⟨destination, hdestination⟩ :=
    Option.isSome_iff_exists.mp (hresolved unpaid (by simp))
  refine ⟨front, unpaid, rest, destination, rfl, ?_, ?_, hdestination, ?_⟩
  · intro output houtput
    exact scheduledFault?_eq_none_iff.mp (hfront output houtput)
  · intro hpays
    rw [scheduledFault?_eq_none_iff.mpr hpays] at hunpaid
    cases hunpaid
  · rw [scheduledFault?, hdestination] at hunpaid
    dsimp only at hunpaid
    split at hunpaid
    · cases hunpaid
    · exact (Option.some.inj hunpaid).symm

/-- Against a schedule with a broken script every transaction is refused. The refusal is the fatal one
for the first broken script exactly if the transaction pays every output before it; otherwise it is a
missing payment of the first output that is not paid. -/
theorem broken_schedule_refused {lock : ChainLock} {height : Height} {expected : Amount}
    {outputs : List Output} (hactive : world.consensus.paymentsStart ≤ height)
    (hschedule : world.schedule lock height expected = .ok (.payees outputs))
    (hbroken : ∃ output ∈ outputs, world.destination? output.script = none) :
    ∃ before broken after, outputs = before ++ broken :: after ∧
      (∀ earlier ∈ before, (world.destination? earlier.script).isSome = true) ∧
      world.destination? broken.script = none ∧
      ∀ tx gate, ∃ e, (world.checkTransaction lock tx height expected).outcome gate = .error e ∧
        (e.isFatal = true ↔ ∀ earlier ∈ before, world.PaysScript tx earlier.script) ∧
        (e.isFatal = true → e = .unresolvableDestination broken.scriptText) ∧
        (e.isFatal = false → ∃ front unpaid rest destination, before = front ++ unpaid :: rest ∧
          (∀ earlier ∈ front, world.PaysScript tx earlier.script) ∧
          ¬ world.PaysScript tx unpaid.script ∧
          world.destination? unpaid.script = some destination ∧
          e = .missingMasternodePayment height (world.address destination)) := by
  obtain ⟨before, broken, after, rfl, hresolved, hnone⟩ := exists_first_broken hbroken
  refine ⟨before, broken, after, rfl, hresolved, hnone, fun tx gate => ?_⟩
  rw [outcome_checkTransaction_of_payees hactive hschedule,
    findSome?_scheduledFault?_of_broken tx height hnone]
  have hpaid : before.findSome? (world.scheduledFault? (world.paid tx) height) = none ↔ _ :=
    findSome?_scheduledFault?_eq_none_iff
  cases hfault : before.findSome? (world.scheduledFault? (world.paid tx) height) with
  | none => exact ⟨_, rfl, iff_of_true rfl (hpaid.mp hfault), fun _ => rfl, nofun⟩
  | some e =>
    obtain ⟨front, unpaid, rest, destination, hbefore, hfront, hunpaid, hdestination, rfl⟩ :=
      first_unpaid_of_resolved hresolved hfault
    refine ⟨_, rfl, iff_of_false nofun ?_, nofun, fun _ =>
      ⟨front, unpaid, rest, destination, hbefore, hfront, hunpaid, hdestination, rfl⟩⟩
    intro hall
    exact hunpaid (hall unpaid (by simp [hbefore]))

/-- The small world, but with a script for the operator that pays nobody. -/
def smallBroken : World :=
  { small with
    masternodes :=
      { small.masternodes with
        payeeAfter := fun _ => some ⟨.zero 32, Script.payToKeyHash (.zero 20), [0x6a], 2500⟩ } }

/-- The schedule of the small world with a broken script, the owner's share of 150 first. -/
def smallBrokenOutputs : List Output :=
  [⟨150, Script.payToKeyHash (.zero 20)⟩, ⟨50, [0x6a]⟩]

theorem broken_schedule_refused_small :
    smallBroken.consensus.paymentsStart ≤ 2 ∧
    smallBroken.schedule .small 2 400 = .ok (.payees smallBrokenOutputs) ∧
    (∃ output ∈ smallBrokenOutputs, smallBroken.destination? output.script = none) ∧
    ∀ tx gate, ∃ e, (smallBroken.checkTransaction .small tx 2 400).outcome gate = .error e := by
  have hactive : smallBroken.consensus.paymentsStart ≤ 2 := by decide
  have hschedule : smallBroken.schedule .small 2 400 = .ok (.payees smallBrokenOutputs) := rfl
  have hbroken : ∃ output ∈ smallBrokenOutputs, smallBroken.destination? output.script = none :=
    ⟨⟨50, [0x6a]⟩, by decide, rfl⟩
  refine ⟨hactive, hschedule, hbroken, fun tx gate => ?_⟩
  obtain ⟨_, _, _, _, _, _, hrefused⟩ := broken_schedule_refused hactive hschedule hbroken
  obtain ⟨e, herror, _⟩ := hrefused tx gate
  exact ⟨e, herror⟩

/-- A transaction that pays nobody hides the operator's broken script behind the owner's share. -/
theorem unpaid_owner_hides_broken_script :
    smallBroken.consensus.paymentsStart ≤ 2 ∧
    smallBroken.schedule .small 2 400 = .ok (.payees smallBrokenOutputs) ∧
    (∃ output ∈ smallBrokenOutputs, smallBroken.destination? output.script = none) ∧
    ∃ e, (smallBroken.checkTransaction .small .empty 2 400).outcome .wide = .error e ∧
      e.isFatal = false ∧ ∀ output : Output, e ≠ .unresolvableDestination output.scriptText := by
  have hmissing : (smallBroken.checkTransaction .small .empty 2 400).outcome .wide =
      .error (.missingMasternodePayment 2 (smallBroken.address (.key (.zero 20)))) := rfl
  exact ⟨by decide, rfl, ⟨⟨50, [0x6a]⟩, by decide, rfl⟩, _, hmissing, rfl, nofun⟩

end Paymaster.World
