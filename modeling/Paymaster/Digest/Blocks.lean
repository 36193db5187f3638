import Paymaster.Digest.ByteOrder
/-!
# Hashing by blocks

A message is padded to whole blocks of 64 bytes, the last eight of which hold its
length, and the blocks are folded into a state one after the other.
-/
namespace Paymaster.Blocks

/-- A one bit, zeros up to eight bytes below a block's end, and the length in bits. -/
def pad (order : ByteOrder) (message : Bytes) : Bytes :=
  message ++ 0x80 :: List.replicate ((119 - message.length % 64) % 64) 0 ++
    order.countBytes (UInt64.ofNat (8 * message.length))

/-- Folds the first `count` blocks into the state. -/
def fold {σ : Type} (compress : σ → Bytes → σ) : Nat → σ → Bytes → σ
  | 0, s, _ => s
  | count + 1, s, bytes => fold compress count (compress s (bytes.take 64)) (bytes.drop 64)

def run {σ : Type} (order : ByteOrder) (compress : σ → Bytes → σ) (start : σ) (message : Bytes) : σ :=
  let padded := pad order message
  fold compress (padded.length / 64) start padded

end Paymaster.Blocks
