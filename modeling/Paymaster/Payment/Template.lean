import Paymaster.Diagnostics.InPlace
import Paymaster.Payment.Schedule
/-!
# Block templates

The reward transaction of a new block is completed in place with its payments: the
grant, the masternode outputs and the superblock outputs are appended, in this order.
The miner's output then gives up the masternode share and nothing else.
-/
namespace Paymaster

/-- What a completed transaction pays besides the miner and a grant. -/
structure BlockPayments where
  masternode : List Output
  superblock : List Output

def Output.total (outputs : List Output) : Amount :=
  outputs.foldl (fun sum output => sum + output.value) 0

def BlockPayments.masternodeTotal (payments : BlockPayments) : Amount :=
  Output.total payments.masternode

def minerIndex : Nat := 1

def Grant.script : Bytes :=
  Script.payToKeyHash Grant.recipient

def Grant.output (grant : Grant) : Output :=
  ⟨grant.amount, Grant.script⟩

namespace Transaction

def append (tx : Transaction) (outputs : List Output) : Transaction :=
  { tx with outputs := tx.outputs ++ outputs }

/-- The transaction whose miner's output gives up an amount. -/
def reduceMiner (tx : Transaction) (amount : Amount) : Transaction :=
  { tx with
    outputs := tx.outputs.modify minerIndex fun output =>
      { output with value := output.value - amount } }

end Transaction

namespace World

/-- The outputs that pay the grant of a height: one, or none without a grant. -/
def grantOutputs (world : World) (height : Height) : List Output :=
  ((world.grants.grantAt? height).map Grant.output).toList

/-- The governance payments of a triggered superblock. -/
def superblockOutputs (world : World) (height : Height) : Payment (List Output) := do
  match world.superblockState height with
  | .triggered =>
    Traced.debug .governance s!"fill_block_payments: triggered superblock creation at height {height}"
    return world.governance.payments height
  | .disabled | .notTriggered => return []

def noteMissingPayee (outputs : List Output) : Payment Unit :=
  if outputs.isEmpty then
    .debug .payments "fill_block_payments: no masternode to pay (masternode list probably empty)"
  else pure ()

/-- The summary of a completion is only put together where it is shown. -/
def noteFilled (height : Height) (expected : Amount) (payments : BlockPayments)
    (filled : Transaction) : Payment Unit :=
  .whenAdmitted .payments <|
    let masternode := String.intercalate "," (payments.masternode.map Output.render)
    let tx := filled.render
    .debug .payments (s!"fill_block_payments: height {height} expected_reward {expected} " ++
      s!"masternode_payments \"{masternode}\" tx {tx}")

/-- Completes the reward transaction; one without a miner's output is refused. -/
def fill (world : World) (lock : ChainLock) (height : Height) (expected : Amount) :
    InPlace Transaction PaymentError BlockPayments := do
  let tx ← InPlace.get
  if tx.outputs.length ≤ minerIndex then
    InPlace.fail (.missingMinerOutput tx.outputs.length)
  else
    let superblock ← world.superblockOutputs height
    let masternode ← world.masternodeOutputs lock height expected
    noteMissingPayee masternode
    InPlace.modify (Transaction.append · (world.grantOutputs height))
    InPlace.modify (Transaction.append · masternode)
    InPlace.modify (Transaction.append · superblock)
    let payments : BlockPayments := ⟨masternode, superblock⟩
    InPlace.modify (Transaction.reduceMiner · payments.masternodeTotal)
    let filled ← InPlace.get
    noteFilled height expected payments filled
    return payments

end World

end Paymaster
