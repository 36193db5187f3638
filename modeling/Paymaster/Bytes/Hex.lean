import Paymaster.Bytes.Basic
import Paymaster.Text.Blank
/-!
# Hexadecimal text

Bytes are written as two lower-case digits each. Reading trims the text, takes
the digits in pairs and accepts either letter case.
-/
namespace Paymaster.Hex

def pair (b : UInt8) : List Char :=
  [Nat.digitChar (b.toNat / 16), Nat.digitChar (b.toNat % 16)]

def digits (bytes : Bytes) : List Char :=
  bytes.flatMap pair

def ofBytes (bytes : Bytes) : String :=
  String.ofList (digits bytes)

/-- The value of one digit in either letter case. -/
def digitValue? (c : Char) : Option Nat :=
  if '0' ≤ c ∧ c ≤ '9' then some (c.toNat - '0'.toNat)
  else if 'a' ≤ c ∧ c ≤ 'f' then some (c.toNat - 'a'.toNat + 10)
  else if 'A' ≤ c ∧ c ≤ 'F' then some (c.toNat - 'A'.toNat + 10)
  else none

def byte? (high low : Char) : Option UInt8 :=
  match digitValue? high, digitValue? low with
  | some h, some l => some (UInt8.ofNat (16 * h + l))
  | _, _ => none

/-- Reads pairs of digits and nothing else. -/
def readPairs : List Char → Option Bytes
  | [] => some []
  | [_] => none
  | high :: low :: rest =>
    match byte? high low, readPairs rest with
    | some b, some bs => some (b :: bs)
    | _, _ => none

def toBytes? (text : String) : Option Bytes :=
  readPairs (Text.trim text.toList)

@[simp] theorem digits_nil : digits [] = [] := rfl

@[simp] theorem digits_cons (b : UInt8) (bs : Bytes) : digits (b :: bs) = pair b ++ digits bs := rfl

theorem length_digits (bytes : Bytes) : (digits bytes).length = 2 * bytes.length := by
  induction bytes with
  | nil => rfl
  | cons b bs ih => simp [pair, ih]; omega

end Paymaster.Hex
