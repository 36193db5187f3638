import Paymaster.Amount
import Paymaster.Bytes.Basic
/-!
# The active chain

The hashes of the best chain by height, from the first block on. Blocks are
pushed at the tip and dropped from it. The lock around the chain is poisoned
when a writer fails half way: from then on it lets nobody read or write.
-/
namespace Paymaster

structure BlockEntry where
  height : Height
  hash : Hash256
deriving DecidableEq

structure Chain where
  hashes : Array Hash256

namespace Chain

def empty : Chain :=
  ⟨#[]⟩

/-- The height of the tip, minus one for an empty chain. -/
def height (chain : Chain) : Height :=
  Int32.ofNat chain.hashes.size - 1

def get? (chain : Chain) (height : Height) : Option BlockEntry :=
  if height < 0 then none
  else (chain.hashes[height.toInt.toNat]?).map fun hash => ⟨height, hash⟩

def tip? (chain : Chain) : Option BlockEntry :=
  (chain.hashes.back?).map fun hash => ⟨chain.height, hash⟩

/-- The block that a push puts on top. -/
def nextEntry (chain : Chain) (hash : Hash256) : BlockEntry :=
  ⟨Int32.ofNat chain.hashes.size, hash⟩

def push (chain : Chain) (hash : Hash256) : Chain :=
  ⟨chain.hashes.push hash⟩

def truncate (chain : Chain) (height : Height) : Chain :=
  ⟨chain.hashes.take height.succ.toInt.toNat⟩

end Chain

/-- A chain behind a lock; what a poisoned lock holds can no longer be seen or changed. -/
structure ChainLock where
  chain : Chain
  poisoned : Bool := false

namespace ChainLock

def read? (lock : ChainLock) : Option Chain :=
  if lock.poisoned then none else some lock.chain

/-- Replaces the chain, unless the lock is poisoned. -/
def write? (lock : ChainLock) (update : Chain → Chain) : Option ChainLock :=
  if lock.poisoned then none else some { lock with chain := update lock.chain }

def poison (lock : ChainLock) : ChainLock :=
  { lock with poisoned := true }

@[simp] theorem read?_poison (lock : ChainLock) : lock.poison.read? = none := rfl

@[simp] theorem write?_poison (lock : ChainLock) (update : Chain → Chain) :
    lock.poison.write? update = none := rfl

end ChainLock

end Paymaster
