import Paymaster.Diagnostics.Traced
import Paymaster.Payment.Error
import Paymaster.World
/-!
# The value of a block

At a grant height any value is valid. Elsewhere a block may create its reward,
and at a superblock height with a triggered superblock up to the governance
limit more, provided that governance accepts its payment transaction.
-/
namespace Paymaster

namespace World

def superblockMax (world : World) (height : Height) (expected : Amount) : Amount :=
  expected.saturatingAdd (world.governance.limit height)

def boundByReward (height : Height) (expected actual : Amount) (bound : RewardBound) :
    Traced PaymentError Unit :=
  if actual ≤ expected then pure () else .fail (.exceededBlockReward height actual expected bound)

/-- Whether a block has a payment transaction that governance accepts. -/
def acceptsSuperblock (world : World) (block : Block) (height : Height) (expected actual : Amount) : Bool :=
  block.paymentTransaction?.any fun tx => world.governance.accepts tx height actual expected

def checkTriggered (world : World) (block : Block) (height : Height) (expected actual : Amount) :
    Traced PaymentError Unit :=
  if world.acceptsSuperblock block height expected actual then pure ()
  else do
    let text := s!"is_block_value_valid: invalid superblock detected at height {height}"
    Traced.note ⟨.error, .valueCheck, text⟩
    Traced.fail (.invalidSuperblock height)

def checkSuperblockHeight (world : World) (block : Block) (state : SuperblockState)
    (height : Height) (expected actual : Amount) : Traced PaymentError Unit :=
  match state with
  | .disabled => do
    Traced.debug .governance
      ("is_block_value_valid: " ++ Spork.superblocksEnabled.name ++ " is off, no superblocks allowed")
    boundByReward height expected actual .superblocksDisabled
  | .notTriggered => boundByReward height expected actual .notTriggered
  | .triggered => checkTriggered world block height expected actual

def checkValue (world : World) (block : Block) (height : Height) (expected actual : Amount) :
    Traced PaymentError Unit :=
  match world.policy height with
  | .grant _ => pure ()
  | .standard state => do
    let most := world.superblockMax height expected
    Traced.debug .payments s!"is_block_value_valid: actual_reward {actual} <= expected_reward {expected}"
    Traced.debug .governance s!"is_block_value_valid: actual_reward {actual} <= superblock_max {most}"
    match world.consensus.classify height with
    | .regularBlock => boundByReward height expected actual .regularHeight
    | .superblockHeight =>
      if actual ≤ most then checkSuperblockHeight world block state height expected actual
      else Traced.fail (.exceededSuperblockLimit height actual most)

end World

end Paymaster
