import Paymaster.World
/-!
# Worlds given by tables

A scenario describes a world by finite tables: what a table does not list has a
common default, and the first line for a key counts. Its chain is numbered, each
block's hash being its own height.
-/
namespace Paymaster

structure Scenario where
  network : Network
  consensus : Consensus
  grants : List Grant := []
  lite : Bool := false
  payeesByHash : List (Hash256 × Masternode) := []
  payees : List (Height × Masternode) := []
  defaultPayee : Option Masternode := none
  projection : List Masternode := []
  dip3Enforced : Bool := false
  triggered : List Height := []
  limits : List (Height × Amount) := []
  limit : Amount := 0
  paymentsAt : List (Height × List Output) := []
  payments : List Output := []
  descriptions : List (Height × String) := []
  description : String := ""
  accepts : Bool := true
  maxActual : Option Amount := none
  minExpected : Option Amount := none
  requirePayments : Bool := false
  superblocksEnabled : Bool := false
  rewards : List (Height × Amount) := []
  percent : Int := 100

namespace Scenario

def tableAt {α : Type} (table : List (Height × α)) (default : α) (height : Height) : α :=
  (table.lookup height).getD default

def masternodes (scenario : Scenario) : MasternodeList where
  payeeAfter block :=
    ((scenario.payeesByHash.find? (·.1 = block.hash)).map Prod.snd).or
      ((scenario.payees.lookup block.height).or scenario.defaultPayee)
  projected count := scenario.projection.take count
  dip3Enforced := scenario.dip3Enforced

def superblockPayments (scenario : Scenario) (height : Height) : List Output :=
  tableAt scenario.paymentsAt scenario.payments height

def acceptsSuperblock (scenario : Scenario) (tx : Transaction) (height : Height)
    (actual expected : Amount) : Bool :=
  scenario.accepts && scenario.maxActual.all (actual ≤ ·) && scenario.minExpected.all (· ≤ expected) &&
    (!scenario.requirePayments ||
      (scenario.superblockPayments height).all fun output => output ∈ tx.outputs)

def governance (scenario : Scenario) : Governance where
  isTriggered height := height ∈ scenario.triggered
  limit := tableAt scenario.limits scenario.limit
  payments := scenario.superblockPayments
  accepts := scenario.acceptsSuperblock
  description := tableAt scenario.descriptions scenario.description

/-- The reward listed for a height, or a percentage of the block reward. -/
def masternodeReward (scenario : Scenario) (height : Height) (reward : Amount) : Amount :=
  tableAt scenario.rewards (reward.share scenario.percent 100) height

/-- The world of a scenario, unless its list of grants has a fault. -/
def world (scenario : Scenario) : Except GrantFault World := do
  let grants ← GrantTable.ofList scenario.grants
  return {
    network := scenario.network
    consensus := scenario.consensus
    grants
    lite := scenario.lite
    masternodes := scenario.masternodes
    governance := scenario.governance
    isActive := fun _ => scenario.superblocksEnabled
    masternodeReward := scenario.masternodeReward }

end Scenario

/-- The hash of a numbered block: its height in four little-endian bytes, then zeros. -/
def Hash256.ofHeight (height : Nat) : Hash256 where
  bytes := UInt8.ofNat height :: UInt8.ofNat (height >>> 8) :: UInt8.ofNat (height >>> 16) ::
    UInt8.ofNat (height >>> 24) :: List.replicate 28 0
  length_bytes := rfl

def Chain.numbered (count : Nat) : Chain :=
  ⟨(Array.range count).map Hash256.ofHeight⟩

end Paymaster
