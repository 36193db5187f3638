import Paymaster.Bytes.Base58
import Paymaster.Network
import Paymaster.Script
/-!
# Addresses

An address is a version byte, a hash and the first four bytes of a checksum in
base 58. The version tells key from script destinations and mainnet from the
test networks.
-/
namespace Paymaster

/-- Why a text is not an address of a network. -/
inductive AddressError where
  | invalidLength
  | invalidCharacter
  | invalidChecksum
  | unknownVersion
deriving DecidableEq

def AddressError.message : AddressError → String
  | invalidLength => "invalid address length"
  | invalidCharacter => "invalid base58 character"
  | invalidChecksum => "invalid address checksum"
  | unknownVersion => "address prefix does not match network"

structure AddressVersions where
  key : UInt8
  script : UInt8

def Network.addressVersions : Network → AddressVersions
  | .mainnet => ⟨48, 10⟩
  | .testnet | .devnet | .regtest => ⟨140, 19⟩

namespace Address

/-- The four bytes that guard a payload. -/
def checksum (hashing : Hashing) (payload : Bytes) : Bytes :=
  (hashing.checksum payload).bytes.take 4

def encodeChecked (hashing : Hashing) (payload : Bytes) : List Char :=
  Base58.encode (payload ++ checksum hashing payload)

/-- The payload of a text in base 58 whose last four bytes are its checksum. -/
def decodeChecked (hashing : Hashing) (text : List Char) : Except AddressError Bytes :=
  match Base58.decode? text with
  | none => .error .invalidCharacter
  | some bytes =>
    let payload := bytes.take (bytes.length - 4)
    if bytes.length < 4 then .error .invalidLength
    else if bytes.drop (bytes.length - 4) = checksum hashing payload then .ok payload
    else .error .invalidChecksum

/-- The version byte and the hash of a destination. -/
def payload (network : Network) : Destination → Bytes
  | .key hash => network.addressVersions.key :: hash.bytes
  | .script hash => network.addressVersions.script :: hash.bytes

def ofPayload (network : Network) : Bytes → Except AddressError Destination
  | [] => .error .invalidLength
  | version :: rest =>
    match FixedBytes.ofBytes? 20 rest with
    | none => .error .invalidLength
    | some hash =>
      if version = network.addressVersions.key then .ok (.key hash)
      else if version = network.addressVersions.script then .ok (.script hash)
      else .error .unknownVersion

def encode (hashing : Hashing) (network : Network) (destination : Destination) : String :=
  String.ofList (encodeChecked hashing (payload network destination))

def decode (hashing : Hashing) (network : Network) (text : String) : Except AddressError Destination :=
  match decodeChecked hashing text.toList with
  | .error e => .error e
  | .ok payload => ofPayload network payload

def ofScript? (hashing : Hashing) (network : Network) (script : Bytes) : Option String :=
  (Script.destination? hashing.keyHash script).map (encode hashing network)

/-- The standard script that pays to an address. -/
def toScript (hashing : Hashing) (network : Network) (text : String) : Except AddressError Bytes :=
  (decode hashing network text).map Destination.toScript

end Address

end Paymaster
