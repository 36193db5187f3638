import Paymaster.Address
import Paymaster.Chain
import Paymaster.Grant
import Paymaster.Masternode
/-!
# What the payment rules consult

The rules read network parameters, the grant table, the masternode list, the
governance decisions, the network switches and the reward curve. All of these
answer as functions; the chain is kept apart, because it changes.
-/
namespace Paymaster

structure MasternodeList where
  /-- Who is owed the block on top of the given one. -/
  payeeAfter : BlockEntry → Option Masternode
  /-- The payees of the next blocks after the tip, as many as asked for. -/
  projected : Nat → List Masternode
  dip3Enforced : Bool

structure Governance where
  isTriggered : Height → Bool
  limit : Height → Amount
  payments : Height → List Output
  /-- Judges a transaction at a height by its actual and its expected reward. -/
  accepts : Transaction → Height → Amount → Amount → Bool
  description : Height → String

structure World where
  network : Network
  consensus : Consensus
  grants : GrantTable
  /-- Payee checks are skipped where no list is kept. -/
  lite : Bool
  masternodes : MasternodeList
  governance : Governance
  isActive : Spork → Bool
  masternodeReward : Height → Amount → Amount
  hashing : Hashing := .standard

/-- Whether a superblock may be and is due at a height. -/
inductive SuperblockState where
  | disabled
  | notTriggered
  | triggered
deriving DecidableEq

/-- Which rules hold at a height. -/
inductive Policy where
  | grant (amount : Amount)
  | standard (state : SuperblockState)
deriving DecidableEq

namespace World

def superblockState (world : World) (height : Height) : SuperblockState :=
  if !world.isActive .superblocksEnabled then .disabled
  else if world.governance.isTriggered height then .triggered
  else .notTriggered

def policy (world : World) (height : Height) : Policy :=
  match world.grants.grantAt? height with
  | some grant => .grant grant.amount
  | none => .standard (world.superblockState height)

def destination? (world : World) (script : Bytes) : Option Destination :=
  Script.destination? world.hashing.keyHash script

def address (world : World) (destination : Destination) : String :=
  Address.encode world.hashing world.network destination

def scriptAddress? (world : World) (script : Bytes) : Option String :=
  Address.ofScript? world.hashing world.network script

end World

end Paymaster
