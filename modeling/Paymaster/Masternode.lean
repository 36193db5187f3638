import Paymaster.Transaction
/-!
# Masternodes and their reward

A masternode names a payout script for its owner and may name one for its
operator, who then gets a share of the reward in basis points. Both shares
always add up to the reward; only positive ones become outputs.
-/
namespace Paymaster

structure Masternode where
  registration : Hash256
  payout : Bytes
  /-- Empty where no operator is paid. -/
  operatorPayout : Bytes
  /-- The operator's share in basis points. -/
  operatorRate : UInt16
deriving DecidableEq

def Masternode.fullRate : Nat := 10000

/-- One reward, divided between owner and operator. -/
structure RewardSplit where
  owner : Amount
  operator : Amount
deriving DecidableEq

namespace RewardSplit

/-- The operator's part; a rate above the whole is not capped. -/
def operatorPart (node : Masternode) (reward : Amount) : Amount :=
  if node.operatorRate ≠ 0 ∧ node.operatorPayout ≠ [] then
    reward.share node.operatorRate.toNat Masternode.fullRate
  else 0

def ofReward (node : Masternode) (reward : Amount) : RewardSplit :=
  let operator := operatorPart node reward
  ⟨reward.saturatingSub operator, operator⟩

/-- The positive shares as outputs, the owner's first. -/
def outputs (split : RewardSplit) (node : Masternode) : List Output :=
  (if 0 < split.owner then [⟨split.owner, node.payout⟩] else []) ++
    if 0 < split.operator then [⟨split.operator, node.operatorPayout⟩] else []

end RewardSplit

end Paymaster
