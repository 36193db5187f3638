import Paymaster.Payment.Schedule
/-!
# Listings of payees

The payee of a height is shown by its address, with the superblock description
behind it where one is triggered. A listing takes the heights of a window up to
the tip from the chain and the later ones from the projected payees.
-/
namespace Paymaster

namespace World

def lookahead : Nat := 8

/-- Whether a masternode is about to be paid; before the list is enforced, any may be. -/
def isScheduled (world : World) (node : Masternode) : Bool :=
  !world.masternodes.dip3Enforced ||
    (world.masternodes.projected lookahead).any fun payee => payee.registration = node.registration

def listedPayee (world : World) : Option Masternode → Except PaymentError String
  | none => .ok "Unknown"
  | some node =>
    match world.scriptAddress? node.payout with
    | some address => .ok address
    | none => .error (.unresolvableDestination (Hex.ofBytes node.payout))

def listing (world : World) (height : Height) (payee : Option Masternode) : Except PaymentError String := do
  let name ← listedPayee world payee
  if world.governance.isTriggered height then
    return name ++ ", " ++ world.governance.description height
  else return name

/-- The heights of a window up to the tip, with the payee after the block below each. -/
def history (world : World) (chain : Chain) (start stop : Height) : List (Height × Option Masternode) :=
  (Height.range start (min stop chain.height.succ)).map fun height =>
    (height, (chain.get? (height - 1)).bind world.masternodes.payeeAfter)

/-- Projected payees in turn, the first one at `height`. -/
def enumerate (height : Height) : List Masternode → List (Height × Masternode)
  | [] => []
  | node :: rest => (height, node) :: enumerate (height + 1) rest

/-- The heights of a window above the tip, with their projected payees. -/
def projection (world : World) (chain : Chain) (start stop : Height) : List (Height × Option Masternode) :=
  if start < stop ∧ chain.height.succ < stop then
    let count := (stop.toInt - chain.height.toInt).toNat
    let upcoming := enumerate chain.height.succ (world.masternodes.projected count)
    (upcoming.filter fun entry => start ≤ entry.1 && entry.1 < stop).map fun entry =>
      (entry.1, some entry.2)
  else []

/-- The listed texts for every height from `start` up to and without `stop`, in ascending order. -/
def listings (world : World) (lock : ChainLock) (start stop : Height) :
    Except PaymentError (List (Height × String)) := do
  let chain ← lock.read
  let start := max start 1
  (world.history chain start stop ++ world.projection chain start stop).mapM fun entry => do
    let text ← world.listing entry.1 entry.2
    return (entry.1, text)

end World

end Paymaster
