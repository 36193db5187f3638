import Paymaster.Amount
import Paymaster.Text.Keyword
/-!
# Networks and their payment parameters

Each network has a short name, a set of accepted spellings and the heights at
which its payment rules begin. A superblock height is a multiple of the cycle
from the start height on.
-/
namespace Paymaster

inductive Network where
  | mainnet
  | testnet
  | devnet
  | regtest
deriving DecidableEq

namespace Network

def name : Network → String
  | mainnet => "main"
  | testnet => "test"
  | devnet => "dev"
  | regtest => "regtest"

def ofName? (raw : String) : Option Network :=
  match Text.keyword raw with
  | "main" | "mainnet" => some mainnet
  | "test" | "testnet" => some testnet
  | "dev" | "devnet" => some devnet
  | "regtest" => some regtest
  | _ => none

end Network

/-- The heights at which the payment rules of a network begin. -/
structure Consensus where
  paymentsStart : Height
  superblockStart : Height
  superblockCycle : Height
  dip3Activation : Height
  dip3Enforcement : Height

/-- Whether a height can carry a superblock at all. -/
inductive RewardClass where
  | regularBlock
  | superblockHeight
deriving DecidableEq

namespace Consensus

/-- A height set far ahead for what was never scheduled; mainnet superblocks fall on its multiples. -/
def unscheduled : Height := 400000

def ofNetwork : Network → Consensus
  | .mainnet => ⟨201, unscheduled, unscheduled, 201, 2000⟩
  | .testnet => ⟨50, 100, 24, 75, 363000⟩
  | .devnet => ⟨4010, 4200, 24, 2, 2⟩
  | .regtest => ⟨240, 1500, 10, 432, 500⟩

def isDip3Enforced (rules : Consensus) (height : Height) : Bool :=
  rules.dip3Enforcement ≤ height

def isSuperblockHeight (rules : Consensus) (height : Height) : Bool :=
  0 < rules.superblockCycle && rules.superblockStart ≤ height && height % rules.superblockCycle == 0

def classify (rules : Consensus) (height : Height) : RewardClass :=
  if rules.isSuperblockHeight height then .superblockHeight else .regularBlock

end Consensus

/-- Switches that the whole network turns on or off. -/
inductive Spork where
  | superblocksEnabled
deriving DecidableEq

def Spork.name : Spork → String
  | superblocksEnabled => "SPORK_9_SUPERBLOCKS_ENABLED"

end Paymaster
