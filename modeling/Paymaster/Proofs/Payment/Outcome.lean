import Paymaster.Payment.Payee
import Paymaster.Payment.Template
import Paymaster.Payment.Value
/-!
# Outcomes of the payment computations

Messages never steer a computation, so each one has an outcome that is the same
behind every gate. The outcomes are stated here stage by stage, with the messages
left out; later results build on them and not on the computations.
-/
namespace Paymaster

namespace Traced

variable {ε α β : Type}

theorem outcome_bind_of_ok {x : Traced ε α} {f : α → Traced ε β} {gate : Gate} {a : α}
    (h : x.outcome gate = .ok a) : (x >>= f).outcome gate = (f a).outcome gate := by
  rw [outcome_bind, h]
  rfl

theorem outcome_bind_of_error {x : Traced ε α} {f : α → Traced ε β} {gate : Gate} {e : ε}
    (h : x.outcome gate = .error e) : (x >>= f).outcome gate = .error e := by
  rw [outcome_bind, h]
  rfl

@[simp] theorem outcome_note_bind (message : Message) (f : Unit → Traced ε β) (gate : Gate) :
    (note message >>= f).outcome gate = (f ()).outcome gate :=
  outcome_bind_of_ok rfl

@[simp] theorem outcome_debug (category : Category) (text : String) (gate : Gate) :
    (debug category text : Traced ε Unit).outcome gate = .ok () := rfl

@[simp] theorem outcome_debug_bind (category : Category) (text : String) (f : Unit → Traced ε β)
    (gate : Gate) : (debug category text >>= f).outcome gate = (f ()).outcome gate :=
  outcome_bind_of_ok rfl

end Traced

/-- The outputs owed by a schedule; where none is known nobody is owed anything. -/
def Schedule.outputs : Schedule → List Output
  | .payees outputs => outputs
  | .unavailable _ => []

namespace RewardSplit

theorem forall_mem_outputs {split : RewardSplit} {node : Masternode} {P : Output → Prop} :
    (∀ output ∈ split.outputs node, P output) ↔
      (0 < split.owner → P ⟨split.owner, node.payout⟩) ∧
        (0 < split.operator → P ⟨split.operator, node.operatorPayout⟩) := by
  rw [outputs]
  by_cases howner : 0 < split.owner <;> by_cases hoperator : 0 < split.operator <;>
    simp [howner, hoperator]

end RewardSplit

namespace World

/-- The schedule that a chain gives: what is owed to the payee at the height. -/
def scheduleOn (world : World) (chain : Chain) (height : Height) (expected : Amount) : Schedule :=
  match world.payeeAt chain height with
  | .error gap => .unavailable gap
  | .ok node =>
    .payees ((RewardSplit.ofReward node (world.masternodeReward height expected)).outputs node)

theorem schedule_of_poisoned {lock : ChainLock} (h : lock.poisoned = true) (world : World)
    (height : Height) (expected : Amount) :
    world.schedule lock height expected = .error .chainLockPoisoned := by
  obtain ⟨chain, poisoned⟩ := lock
  subst h
  rfl

theorem schedule_of_readable {lock : ChainLock} (h : lock.poisoned = false) (world : World)
    (height : Height) (expected : Amount) :
    world.schedule lock height expected = .ok (world.scheduleOn lock.chain height expected) := by
  obtain ⟨chain, poisoned⟩ := lock
  subst h
  have hread : (ChainLock.mk chain false).read = .ok chain := rfl
  simp only [schedule, hread, bind, Except.bind, scheduleOn]
  cases world.payeeAt chain height <;> rfl

theorem schedule_eq_error_iff {world : World} {lock : ChainLock} {height : Height}
    {expected : Amount} {e : PaymentError} :
    world.schedule lock height expected = .error e ↔
      lock.poisoned = true ∧ e = .chainLockPoisoned := by
  cases hlock : lock.poisoned with
  | true => simp [schedule_of_poisoned hlock, eq_comm]
  | false => simp [schedule_of_readable hlock]

theorem scheduleOn_eq_payees_iff {world : World} {chain : Chain} {height : Height}
    {expected : Amount} {outputs : List Output} :
    world.scheduleOn chain height expected = .payees outputs ↔
      ∃ block node, chain.get? height.pred = some block ∧
        world.masternodes.payeeAfter block = some node ∧
        (RewardSplit.ofReward node (world.masternodeReward height expected)).outputs node = outputs := by
  rw [scheduleOn, payeeAt]
  cases chain.get? height.pred with
  | none => simp
  | some block => cases hpayee : world.masternodes.payeeAfter block <;> simp [hpayee]

/-- The superblock outputs of a template: those of governance, if a superblock is triggered. -/
def superblockPayments (world : World) (height : Height) : List Output :=
  if world.superblockState height = .triggered then world.governance.payments height else []

private theorem outcome_forM_notePayment (world : World) (outputs : List Output) (gate : Gate) :
    (outputs.forM world.notePayment).outcome gate = .ok () := by
  induction outputs with
  | nil => rfl
  | cons output rest ih =>
    change (world.notePayment output >>= fun _ => rest.forM world.notePayment).outcome gate = _
    rw [Traced.outcome_bind_of_ok rfl]
    exact ih

theorem outcome_masternodeOutputs (world : World) (lock : ChainLock) (height : Height)
    (expected : Amount) (gate : Gate) :
    (world.masternodeOutputs lock height expected).outcome gate =
      (world.schedule lock height expected).map Schedule.outputs := by
  rw [masternodeOutputs]
  cases hs : world.schedule lock height expected with
  | error e => exact Traced.outcome_bind_of_error rfl
  | ok schedule =>
    rw [Traced.outcome_bind_of_ok (Traced.outcome_ofExcept _ _)]
    cases schedule with
    | unavailable gap => rfl
    | payees outputs =>
      exact Traced.outcome_bind_of_ok (outcome_forM_notePayment world outputs gate)

private theorem outcome_superblockOutputs (world : World) (height : Height) (gate : Gate) :
    (world.superblockOutputs height).outcome gate = .ok (world.superblockPayments height) := by
  rw [superblockOutputs, superblockPayments]
  cases world.superblockState height <;> rfl

/-- The payments of a template for a schedule. -/
def templatePayments (world : World) (height : Height) (schedule : Schedule) : BlockPayments :=
  ⟨schedule.outputs, world.superblockPayments height⟩

private theorem outcome_noteMissingPayee (outputs : List Output) (gate : Gate) :
    (noteMissingPayee outputs).outcome gate = .ok () := by
  rw [noteMissingPayee]
  split <;> rfl

private theorem outcome_noteFilled (height : Height) (expected : Amount) (payments : BlockPayments)
    (filled : Transaction) (gate : Gate) :
    (noteFilled height expected payments filled).outcome gate = .ok () := by
  rw [noteFilled, Traced.outcome_whenAdmitted]
  split <;> rfl

/-- The transaction with all payments, the miner's output reduced by the masternode total. -/
def complete (world : World) (tx : Transaction) (height : Height) (payments : BlockPayments) :
    Transaction :=
  let paying := ((tx.append (world.grantOutputs height)).append payments.masternode).append
    payments.superblock
  paying.reduceMiner payments.masternodeTotal

theorem outcome_fill (world : World) (lock : ChainLock) (tx : Transaction) (height : Height)
    (expected : Amount) (gate : Gate) :
    (world.fill lock height expected).outcome tx gate =
      if tx.outputs.length ≤ minerIndex then (.error (.missingMinerOutput tx.outputs.length), tx)
      else
        match world.schedule lock height expected with
        | .error e => (.error e, tx)
        | .ok schedule =>
          let payments := world.templatePayments height schedule
          (.ok payments, world.complete tx height payments) := by
  rw [fill, InPlace.outcome_get_bind]
  split
  · rfl
  · rw [InPlace.outcome_lift_bind_of_ok (outcome_superblockOutputs world height gate)]
    have hm := outcome_masternodeOutputs world lock height expected gate
    cases hs : world.schedule lock height expected with
    | error e =>
      rw [hs] at hm
      exact InPlace.outcome_lift_bind_of_error hm tx
    | ok schedule =>
      rw [hs] at hm
      rw [InPlace.outcome_lift_bind_of_ok hm,
        InPlace.outcome_lift_bind_of_ok (outcome_noteMissingPayee schedule.outputs gate)]
      simp only [InPlace.outcome_modify_bind, InPlace.outcome_get_bind]
      exact InPlace.outcome_lift_bind_of_ok (outcome_noteFilled height expected _ _ gate) _

/-- A completion that fails leaves the transaction as it was. -/
theorem eq_of_fill_error {world : World} {lock : ChainLock} {tx left : Transaction}
    {height : Height} {expected : Amount} {gate : Gate} {e : PaymentError}
    (h : (world.fill lock height expected).outcome tx gate = (.error e, left)) : left = tx := by
  rw [outcome_fill] at h
  split at h
  · cases h
    rfl
  · cases hschedule : world.schedule lock height expected with
    | error e =>
      rw [hschedule] at h
      cases h
      rfl
    | ok schedule =>
      rw [hschedule] at h
      cases h

/-- What is wrong with a scheduled output, if the transaction pays only the given destinations. -/
def scheduledFault? (world : World) (paid : List Destination) (height : Height) (output : Output) :
    Option PaymentError :=
  match world.destination? output.script with
  | none => some (.unresolvableDestination output.scriptText)
  | some destination =>
    if destination ∈ paid then none
    else some (.missingMasternodePayment height (world.address destination))

private theorem outcome_checkScheduled (world : World) (paid : List Destination) (height : Height)
    (outputs : List Output) (gate : Gate) :
    (world.checkScheduled paid height outputs).outcome gate =
      match outputs.findSome? (world.scheduledFault? paid height) with
      | none => .ok ()
      | some e => .error e := by
  induction outputs with
  | nil => rfl
  | cons output rest ih =>
    rw [checkScheduled, List.findSome?_cons]
    cases hd : world.destination? output.script with
    | none => simp [scheduledFault?, hd]
    | some destination =>
      by_cases hpaid : destination ∈ paid
      · simpa [scheduledFault?, hd, hpaid] using ih
      · simp [scheduledFault?, hd, hpaid]

theorem outcome_checkTransaction (world : World) (lock : ChainLock) (tx : Transaction)
    (height : Height) (expected : Amount) (gate : Gate) :
    (world.checkTransaction lock tx height expected).outcome gate =
      if height < world.consensus.paymentsStart then .ok (.unverified .beforeActivation)
      else
        match world.schedule lock height expected with
        | .error e => .error e
        | .ok (.unavailable gap) => .ok (.unverified (.gap gap))
        | .ok (.payees outputs) =>
          match outputs.findSome? (world.scheduledFault? (world.paid tx) height) with
          | none => .ok .verified
          | some e => .error e := by
  rw [checkTransaction]
  split
  · rfl
  · cases hs : world.schedule lock height expected with
    | error e => exact Traced.outcome_bind_of_error rfl
    | ok schedule =>
      rw [Traced.outcome_bind_of_ok (Traced.outcome_ofExcept _ _)]
      cases schedule with
      | unavailable gap => rfl
      | payees outputs =>
        simp only [Traced.outcome_bind, outcome_checkScheduled]
        cases outputs.findSome? (world.scheduledFault? (world.paid tx) height) <;> rfl

private theorem outcome_checkGrant (tx : Transaction) (height : Height) (amount : Amount)
    (gate : Gate) :
    (checkGrant tx height amount).outcome gate =
      if tx.outputs.countP (paysGrant amount) = 1 then .ok .verified
      else .error (.invalidGrantPayment height (tx.outputs.countP (paysGrant amount))) := by
  rw [checkGrant, Traced.outcome_note_bind]
  split <;> rfl

/-- Whether a superblock is triggered at the height and governance rejects the transaction. -/
def rejectsSuperblock (world : World) (tx : Transaction) (height : Height)
    (expected actual : Amount) : Bool :=
  world.superblockState height = .triggered && !world.governance.accepts tx height actual expected

theorem rejectsSuperblock_eq_true_iff {world : World} {tx : Transaction} {height : Height}
    {expected actual : Amount} :
    world.rejectsSuperblock tx height expected actual = true ↔
      world.superblockState height = .triggered ∧
        world.governance.accepts tx height actual expected = false := by
  simp [rejectsSuperblock]

private theorem outcome_checkPayeeSuperblock (world : World) (tx : Transaction) (height : Height)
    (expected actual : Amount) (gate : Gate) :
    (checkPayeeSuperblock world tx (world.superblockState height) height expected actual).outcome gate =
      if world.rejectsSuperblock tx height expected actual then .error (.invalidSuperblock height)
      else .ok () := by
  rw [rejectsSuperblock]
  cases world.superblockState height with
  | triggered =>
    rw [checkPayeeSuperblock]
    cases haccepts : world.governance.accepts tx height actual expected <;> simp
  | notTriggered => simp [checkPayeeSuperblock]
  | disabled => simp [checkPayeeSuperblock]

theorem outcome_checkPayee_of_grant {world : World} {height : Height} {grant : Grant}
    (h : world.grants.grantAt? height = some grant) (lock : ChainLock) (tx : Transaction)
    (expected actual : Amount) (gate : Gate) :
    (world.checkPayee lock tx height expected actual).outcome gate =
      if tx.outputs.countP (paysGrant grant.amount) = 1 then .ok .verified
      else .error (.invalidGrantPayment height (tx.outputs.countP (paysGrant grant.amount))) := by
  rw [checkPayee, policy, h]
  exact outcome_checkGrant tx height grant.amount gate

theorem outcome_checkPayee_of_no_grant {world : World} {height : Height}
    (h : world.grants.grantAt? height = none) (lock : ChainLock) (tx : Transaction)
    (expected actual : Amount) (gate : Gate) :
    (world.checkPayee lock tx height expected actual).outcome gate =
      if world.lite then .ok (.unverified .liteMode)
      else if world.rejectsSuperblock tx height expected actual then .error (.invalidSuperblock height)
      else (world.checkTransaction lock tx height expected).outcome gate := by
  rw [checkPayee, policy, h]
  dsimp only
  split
  · rfl
  · simp only [Traced.outcome_bind, outcome_checkPayeeSuperblock]
    split
    · rfl
    · cases (world.checkTransaction lock tx height expected).outcome gate <;> rfl

end World

end Paymaster
