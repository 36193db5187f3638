import Paymaster.Payment.Schedule
/-!
# The payees of a block

At a grant height the grant has to be paid exactly once. Elsewhere every
scheduled output has to be paid by some output with the same destination;
amounts are not compared. What cannot be checked is accepted as unverified.
-/
namespace Paymaster

namespace World

def paid (world : World) (tx : Transaction) : List Destination :=
  tx.outputs.filterMap fun output => world.destination? output.script

/-- Goes through scheduled outputs and stops at the first one that has no destination or is not paid. -/
def checkScheduled (world : World) (paid : List Destination) (height : Height) :
    List Output → Payment Unit
  | [] => pure ()
  | output :: rest =>
    match world.destination? output.script with
    | none => .fail (.unresolvableDestination output.scriptText)
    | some destination =>
      if destination ∈ paid then checkScheduled world paid height rest
      else do
        let payee := world.address destination
        let text := s!"is_transaction_valid: failed to find expected payee {payee} in block at height {height}"
        Traced.note ⟨.error, .payeeCheck, text⟩
        Traced.fail (.missingMasternodePayment height payee)

def checkTransaction (world : World) (lock : ChainLock) (tx : Transaction) (height : Height)
    (expected : Amount) : Payment Acceptance :=
  if height < world.consensus.paymentsStart then pure (.unverified .beforeActivation)
  else do
    match ← Traced.ofExcept (world.schedule lock height expected) with
    | .unavailable gap =>
      let reason := gap.message
      Traced.debug .payments
        s!"is_transaction_valid: failed to get payees for block at height {height} ({reason})"
      return .unverified (.gap gap)
    | .payees outputs =>
      world.checkScheduled (world.paid tx) height outputs
      return .verified

def paysGrant (amount : Amount) (output : Output) : Bool :=
  output.value == amount && Grant.namesRecipient output.scriptText

/-- Checks that a transaction pays a grant exactly once. -/
def checkGrant (tx : Transaction) (height : Height) (amount : Amount) : Payment Acceptance := do
  let found := tx.outputs.countP (paysGrant amount)
  Traced.note ⟨.info, .payeeCheck,
    s!"is_block_payee_valid: generation block at height {height} pays the grant {found} time(s)"⟩
  if found = 1 then return .verified else Traced.fail (.invalidGrantPayment height found)

def checkPayeeSuperblock (world : World) (tx : Transaction) (state : SuperblockState)
    (height : Height) (expected actual : Amount) : Payment Unit :=
  match state with
  | .triggered =>
    let text := tx.render
    if world.governance.accepts tx height actual expected then
      Traced.debug .governance s!"is_block_payee_valid: valid superblock at height {height}: {text}"
    else do
      Traced.note ⟨.error, .payeeCheck,
        s!"is_block_payee_valid: invalid superblock detected at height {height}: {text}"⟩
      Traced.fail (.invalidSuperblock height)
  | .notTriggered =>
    Traced.debug .governance
      s!"is_block_payee_valid: no triggered superblock detected at height {height}"
  | .disabled =>
    Traced.debug .governance
      ("is_block_payee_valid: " ++ Spork.superblocksEnabled.name ++ " is off, no superblocks allowed")

/-- Checks the payees of a block by its payment transaction. -/
def checkPayee (world : World) (lock : ChainLock) (tx : Transaction) (height : Height)
    (expected actual : Amount) : Payment Acceptance :=
  match world.policy height with
  | .grant amount => checkGrant tx height amount
  | .standard state =>
    if world.lite then do
      Traced.debug .payments
        "is_block_payee_valid: not enough data, skipping block payee checks"
      return .unverified .liteMode
    else do
      checkPayeeSuperblock world tx state height expected actual
      let acceptance ← world.checkTransaction lock tx height expected
      let name := acceptance.name
      Traced.debug .payments
        s!"is_block_payee_valid: masternode payment at height {height} accepted ({name})"
      return acceptance

end World

end Paymaster
