import Paymaster.Digest.Hashing
/-!
# Output scripts

Three script forms have a destination: pay to a public key, to a key hash and to
a script hash. A public key and its hash resolve to one destination, so that
payments are compared by destination and not by script.
-/
namespace Paymaster

inductive Destination where
  | key (hash : Hash160)
  | script (hash : Hash160)
deriving DecidableEq

namespace Script

def opDup : UInt8 := 0x76
def opHash160 : UInt8 := 0xa9
def opEqual : UInt8 := 0x87
def opEqualVerify : UInt8 := 0x88
def opCheckSig : UInt8 := 0xac

def pushHash : UInt8 := 20

/-- The fixed part before and after the hash of a pay-to-key-hash script. -/
def keyHashFrame : Bytes × Bytes :=
  ([opDup, opHash160, pushHash], [opEqualVerify, opCheckSig])

def scriptHashFrame : Bytes × Bytes :=
  ([opHash160, pushHash], [opEqual])

/-- A push of `size` bytes and a signature check. -/
def publicKeyFrame (size : UInt8) : Bytes × Bytes :=
  ([size], [opCheckSig])

/-- The script with these bytes in a frame. -/
def inFrame (frame : Bytes × Bytes) (body : Bytes) : Bytes :=
  frame.1 ++ body ++ frame.2

/-- The `width` bytes that stand in a frame, if the script is made that way. -/
def framed? (frame : Bytes × Bytes) (width : Nat) (script : Bytes) : Option (FixedBytes width) :=
  let inner := script.drop frame.1.length
  if script.take frame.1.length = frame.1 ∧ inner.drop width = frame.2 then
    FixedBytes.ofBytes? width (inner.take width)
  else none

def payToKeyHash (hash : Hash160) : Bytes :=
  inFrame keyHashFrame hash.bytes

def payToScriptHash (hash : Hash160) : Bytes :=
  inFrame scriptHashFrame hash.bytes

/-- A public key of one size whose header byte is among those of that size. -/
def publicKeyOf? (size : UInt8) (headers : List UInt8) (script : Bytes) : Option Bytes :=
  match framed? (publicKeyFrame size) size.toNat script with
  | some key => if key.bytes.head?.any (· ∈ headers) then some key.bytes else none
  | none => none

/-- The key of a pay-to-public-key script: 33 bytes compressed, 65 bytes in full. -/
def publicKey? (script : Bytes) : Option Bytes :=
  (publicKeyOf? 33 [0x02, 0x03] script).or (publicKeyOf? 65 [0x04, 0x06, 0x07] script)

inductive Form where
  | publicKey (key : Bytes)
  | keyHash (hash : Hash160)
  | scriptHash (hash : Hash160)
  | other

def form (script : Bytes) : Form :=
  match framed? keyHashFrame 20 script with
  | some hash => .keyHash hash
  | none =>
    match framed? scriptHashFrame 20 script with
    | some hash => .scriptHash hash
    | none =>
      match publicKey? script with
      | some key => .publicKey key
      | none => .other

/-- The destination of a script, under the hash that is used for public keys. -/
def destination? (keyHash : Bytes → Hash160) (script : Bytes) : Option Destination :=
  match form script with
  | .publicKey key => some (.key (keyHash key))
  | .keyHash hash => some (.key hash)
  | .scriptHash hash => some (.script hash)
  | .other => none

end Script

def Destination.toScript : Destination → Bytes
  | key hash => Script.payToKeyHash hash
  | script hash => Script.payToScriptHash hash

end Paymaster
