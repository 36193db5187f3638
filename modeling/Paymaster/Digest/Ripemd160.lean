import Paymaster.Digest.Blocks
/-!
# RIPEMD-160

Each block is read by two lines of eighty steps, which differ in word order,
shifts and constants, and whose results are added to the state crosswise.
-/
namespace Paymaster.Ripemd160

structure State where
  a : UInt32
  b : UInt32
  c : UInt32
  d : UInt32
  e : UInt32

def initial : State :=
  ⟨0x67452301, 0xefcdab89, 0x98badcfe, 0x10325476, 0xc3d2e1f0⟩

/-- One step of a line: which word is read and how far the sum is rotated. -/
abbrev Step := Nat × UInt32

/-- Sixteen steps with one function and one constant. -/
structure Round where
  mix : UInt32 → UInt32 → UInt32 → UInt32
  constant : UInt32
  steps : List Step

def mixParity (x y z : UInt32) : UInt32 :=
  x ^^^ y ^^^ z

def mixSelect (x y z : UInt32) : UInt32 :=
  (x &&& y) ||| ((~~~x) &&& z)

def mixOrNot (x y z : UInt32) : UInt32 :=
  (x ||| (~~~y)) ^^^ z

def mixSelectLast (x y z : UInt32) : UInt32 :=
  (x &&& z) ||| (y &&& (~~~z))

def mixOrNotLast (x y z : UInt32) : UInt32 :=
  x ^^^ (y ||| (~~~z))

def leftLine : List Round :=
  [⟨mixParity, 0x00000000,
      [(0, 11), (1, 14), (2, 15), (3, 12), (4, 5), (5, 8), (6, 7), (7, 9),
        (8, 11), (9, 13), (10, 14), (11, 15), (12, 6), (13, 7), (14, 9), (15, 8)]⟩,
    ⟨mixSelect, 0x5a827999,
      [(7, 7), (4, 6), (13, 8), (1, 13), (10, 11), (6, 9), (15, 7), (3, 15),
        (12, 7), (0, 12), (9, 15), (5, 9), (2, 11), (14, 7), (11, 13), (8, 12)]⟩,
    ⟨mixOrNot, 0x6ed9eba1,
      [(3, 11), (10, 13), (14, 6), (4, 7), (9, 14), (15, 9), (8, 13), (1, 15),
        (2, 14), (7, 8), (0, 13), (6, 6), (13, 5), (11, 12), (5, 7), (12, 5)]⟩,
    ⟨mixSelectLast, 0x8f1bbcdc,
      [(1, 11), (9, 12), (11, 14), (10, 15), (0, 14), (8, 15), (12, 9), (4, 8),
        (13, 9), (3, 14), (7, 5), (15, 6), (14, 8), (5, 6), (6, 5), (2, 12)]⟩,
    ⟨mixOrNotLast, 0xa953fd4e,
      [(4, 9), (0, 15), (5, 5), (9, 11), (7, 6), (12, 8), (2, 13), (10, 12),
        (14, 5), (1, 12), (3, 13), (8, 14), (11, 11), (6, 8), (15, 5), (13, 6)]⟩]

def rightLine : List Round :=
  [⟨mixOrNotLast, 0x50a28be6,
      [(5, 8), (14, 9), (7, 9), (0, 11), (9, 13), (2, 15), (11, 15), (4, 5),
        (13, 7), (6, 7), (15, 8), (8, 11), (1, 14), (10, 14), (3, 12), (12, 6)]⟩,
    ⟨mixSelectLast, 0x5c4dd124,
      [(6, 9), (11, 13), (3, 15), (7, 7), (0, 12), (13, 8), (5, 9), (10, 11),
        (14, 7), (15, 7), (8, 12), (12, 7), (4, 6), (9, 15), (1, 13), (2, 11)]⟩,
    ⟨mixOrNot, 0x6d703ef3,
      [(15, 9), (5, 7), (1, 15), (3, 11), (7, 8), (14, 6), (6, 6), (9, 14),
        (11, 12), (8, 13), (12, 5), (2, 14), (10, 13), (0, 13), (4, 7), (13, 5)]⟩,
    ⟨mixSelect, 0x7a6d76e9,
      [(8, 15), (6, 5), (4, 8), (1, 11), (3, 14), (11, 14), (15, 6), (0, 14),
        (5, 6), (12, 9), (2, 12), (13, 9), (9, 12), (7, 5), (10, 15), (14, 8)]⟩,
    ⟨mixParity, 0x00000000,
      [(12, 8), (15, 5), (10, 12), (4, 9), (1, 12), (5, 5), (8, 14), (7, 6),
        (6, 8), (2, 13), (13, 6), (14, 5), (0, 15), (3, 13), (9, 11), (11, 11)]⟩]

def rotateLeft (x n : UInt32) : UInt32 :=
  (x <<< n) ||| (x >>> (32 - n))

def step (round : Round) (block : List UInt32) (s : State) (next : Step) : State :=
  let sum := s.a + round.mix s.b s.c s.d + block.getD next.1 0 + round.constant
  ⟨s.e, rotateLeft sum next.2 + s.e, s.b, rotateLeft s.c 10, s.d⟩

def runLine (line : List Round) (block : List UInt32) (s : State) : State :=
  line.foldl (fun t round => round.steps.foldl (step round block) t) s

def compress (s : State) (bytes : Bytes) : State :=
  let block := ByteOrder.littleEndian.words bytes
  let l := runLine leftLine block s
  let r := runLine rightLine block s
  ⟨s.b + l.c + r.d, s.c + l.d + r.e, s.d + l.e + r.a, s.e + l.a + r.b, s.a + l.b + r.c⟩

def State.digest (s : State) : Hash160 where
  bytes := [s.a, s.b, s.c, s.d, s.e].flatMap ByteOrder.littleEndian.wordBytes
  length_bytes := rfl

def hash (message : Bytes) : Hash160 :=
  (Blocks.run .littleEndian compress initial message).digest

end Paymaster.Ripemd160
