import Paymaster.Diagnostics.Traced
import Paymaster.Payment.Error
import Paymaster.World
/-!
# The payment schedule

The masternode owed at a height is named by the list for the block below it. Its
reward is split into outputs. Without that block or without a payee there is no
schedule, which is no error; only a poisoned chain lock is one.
-/
namespace Paymaster

/-- A payment computation: it may fail, and it may leave messages. -/
abbrev Payment := Traced PaymentError

inductive Schedule where
  | payees (outputs : List Output)
  | unavailable (gap : ScheduleGap)
deriving DecidableEq

def ChainLock.read (lock : ChainLock) : Except PaymentError Chain :=
  match lock.read? with
  | some chain => .ok chain
  | none => .error .chainLockPoisoned

namespace World

/-- The masternode owed the block at a height of a chain. -/
def payeeAt (world : World) (chain : Chain) (height : Height) : Except ScheduleGap Masternode :=
  match chain.get? height.pred with
  | none => .error .missingBlock
  | some block =>
    match world.masternodes.payeeAfter block with
    | none => .error .noPayee
    | some node => .ok node

/-- The outputs owed at a height for an expected block reward. -/
def schedule (world : World) (lock : ChainLock) (height : Height) (expected : Amount) :
    Except PaymentError Schedule := do
  let chain ← lock.read
  match world.payeeAt chain height with
  | .error gap => return .unavailable gap
  | .ok node =>
    return .payees ((RewardSplit.ofReward node (world.masternodeReward height expected)).outputs node)

/-- The address of an output's script, or the text of a script without one. -/
def payeeName (world : World) (output : Output) : String :=
  (world.scriptAddress? output.script).getD output.scriptText

def notePayment (world : World) (output : Output) : Payment Unit :=
  .debug .payments
    ("masternode_tx_outs: masternode payment " ++ output.value.format ++ " to " ++ world.payeeName output)

/-- The scheduled outputs for a new block; an unavailable schedule pays nobody. -/
def masternodeOutputs (world : World) (lock : ChainLock) (height : Height) (expected : Amount) :
    Payment (List Output) := do
  match ← Traced.ofExcept (world.schedule lock height expected) with
  | .unavailable gap =>
    let reason := gap.message
    Traced.debug .payments s!"masternode_tx_outs: no payee at height {height} ({reason})"
    return []
  | .payees outputs =>
    outputs.forM world.notePayment
    return outputs

end World

end Paymaster
