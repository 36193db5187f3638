import Paymaster.Amount
/-!
# Outcomes of the payment checks

A check accepts a block or refuses it with a cause. An acceptance says whether
the payments were seen or why they could not be. Fatal causes are broken
assumptions of the checker itself and say nothing about the block.
-/
namespace Paymaster

/-- Why the block reward bounds the value of a block. -/
inductive RewardBound where
  | regularHeight
  | superblocksDisabled
  | notTriggered
deriving DecidableEq

def RewardBound.message : RewardBound → String
  | regularHeight => "only regular blocks are allowed at this height"
  | superblocksDisabled => "superblocks are disabled"
  | notTriggered => "no triggered superblock detected"

inductive PaymentError where
  | exceededBlockReward (height : Height) (actual limit : Amount) (bound : RewardBound)
  | exceededSuperblockLimit (height : Height) (actual limit : Amount)
  | invalidSuperblock (height : Height)
  | invalidGrantPayment (height : Height) (found : Nat)
  | missingMasternodePayment (height : Height) (payee : String)
  | unresolvableDestination (scriptText : String)
  | missingMinerOutput (outputs : Nat)
  | chainLockPoisoned
deriving DecidableEq

namespace PaymentError

def isFatal : PaymentError → Bool
  | unresolvableDestination _ | missingMinerOutput _ | chainLockPoisoned => true
  | _ => false

def excess (height : Height) (actual limit : Amount) : String :=
  s!"coinbase pays too much at height {height} (actual={actual} vs limit={limit}), "

def message : PaymentError → String
  | exceededBlockReward height actual limit bound =>
    excess height actual limit ++ "exceeded block reward, " ++ bound.message
  | exceededSuperblockLimit height actual limit =>
    excess height actual limit ++ "exceeded superblock max value"
  | invalidSuperblock height => s!"invalid superblock detected at height {height}"
  | invalidGrantPayment height found =>
    s!"generation block at height {height} must pay the grant exactly once (found {found})"
  | missingMasternodePayment height payee =>
    s!"failed to find expected payee {payee} in block at height {height}"
  | unresolvableDestination scriptText => s!"expected payment script {scriptText} has no destination"
  | missingMinerOutput outputs => s!"payment transaction has no miner output ({outputs} outputs)"
  | chainLockPoisoned => "active chain lock poisoned"

end PaymentError

/-- Why no schedule is known for a height. -/
inductive ScheduleGap where
  | missingBlock
  | noPayee
deriving DecidableEq

/-- Why payments were accepted without having been seen. -/
inductive UnverifiedReason where
  | beforeActivation
  | liteMode
  | gap (gap : ScheduleGap)
deriving DecidableEq

def ScheduleGap.message : ScheduleGap → String
  | missingBlock => "previous block not in active chain"
  | noPayee => "no masternode payee"

namespace UnverifiedReason

def name : UnverifiedReason → String
  | beforeActivation => "BeforeActivation"
  | liteMode => "LiteMode"
  | gap .missingBlock => "MissingBlockIndex"
  | gap .noPayee => "NoPayee"

def message : UnverifiedReason → String
  | beforeActivation => "masternode payments not active yet"
  | liteMode => "lite mode, not enough data"
  | gap cause => cause.message

end UnverifiedReason

inductive Acceptance where
  | verified
  | unverified (reason : UnverifiedReason)
deriving DecidableEq

namespace Acceptance

def isVerified : Acceptance → Bool
  | verified => true
  | unverified _ => false

def name : Acceptance → String
  | verified => "Verified"
  | unverified reason => "Unverified(" ++ reason.name ++ ")"

end Acceptance

end Paymaster
