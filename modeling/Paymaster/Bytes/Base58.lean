import Paymaster.Bytes.Basic
import Paymaster.Bytes.Positional
/-!
# Base 58

A byte string is read as one number and written in 58 symbols. Leading zero
bytes carry no weight in the number and are written as one `1` each.
-/
namespace Paymaster.Base58

/-- Digits and letters without `0`, `O`, `I` and `l`. -/
def alphabet : List Char :=
  "123456789ABCDEFGHJKLMNPQRSTUVWXYZabcdefghijkmnopqrstuvwxyz".toList

def symbol (digit : Nat) : Char :=
  alphabet.getD digit '1'

def symbolValue? (c : Char) : Option Nat :=
  alphabet.idxOf? c

/-- The digits of the number that the bytes stand for, counted from a zero digit. -/
def numeral (bytes : Bytes) : List Nat :=
  Positional.pushAll 58 256 [0] (bytes.map UInt8.toNat)

def encode (bytes : Bytes) : List Char :=
  (bytes.takeWhile (· = 0)).map (fun _ => '1') ++ ((numeral bytes).dropWhile (· = 0)).map symbol

/-- Reads symbols only; any other character makes the text unreadable. -/
def decode? (text : List Char) : Option Bytes :=
  (text.mapM symbolValue?).map fun digits =>
    (text.takeWhile (· = '1')).map (fun _ => 0) ++
      (Positional.pushAll 256 58 [] digits).map UInt8.ofNat

end Paymaster.Base58
