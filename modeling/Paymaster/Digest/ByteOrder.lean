import Paymaster.Bytes.Basic
/-!
# Byte order

Words are read from and written to bytes with the most significant byte first or
last. Both orders share one form, turned around for the second.
-/
namespace Paymaster

inductive ByteOrder where
  | bigEndian
  | littleEndian

namespace ByteOrder

/-- Bytes given most significant first, in this order. -/
def arrange : ByteOrder → Bytes → Bytes
  | bigEndian, bytes => bytes
  | littleEndian, bytes => bytes.reverse

/-- The word of four bytes given most significant first. -/
def bigWord (a b c d : UInt8) : UInt32 :=
  (a.toUInt32 <<< 24) ||| (b.toUInt32 <<< 16) ||| (c.toUInt32 <<< 8) ||| d.toUInt32

def word : ByteOrder → UInt8 → UInt8 → UInt8 → UInt8 → UInt32
  | bigEndian, a, b, c, d => bigWord a b c d
  | littleEndian, a, b, c, d => bigWord d c b a

/-- The words of a byte string; a last group of fewer than four bytes is left out. -/
def words (order : ByteOrder) : Bytes → List UInt32
  | a :: b :: c :: d :: rest => order.word a b c d :: words order rest
  | _ => []

def wordBytes (order : ByteOrder) (w : UInt32) : Bytes :=
  order.arrange [(w >>> 24).toUInt8, (w >>> 16).toUInt8, (w >>> 8).toUInt8, w.toUInt8]

def countBytes (order : ByteOrder) (n : UInt64) : Bytes :=
  order.arrange
    [(n >>> 56).toUInt8, (n >>> 48).toUInt8, (n >>> 40).toUInt8, (n >>> 32).toUInt8,
      (n >>> 24).toUInt8, (n >>> 16).toUInt8, (n >>> 8).toUInt8, n.toUInt8]

end ByteOrder

end Paymaster
