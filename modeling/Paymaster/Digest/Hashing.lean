import Paymaster.Digest.Sha256
import Paymaster.Digest.Ripemd160
/-!
# The two hashes of the payment rules

Key hashes name the owner of a public key, checksums guard an address. Both are
fields of one record, so that everything built on them holds for any hashes.
-/
namespace Paymaster

def sha256d (bytes : Bytes) : Hash256 :=
  Sha256.hash (Sha256.hash bytes).bytes

def hash160 (bytes : Bytes) : Hash160 :=
  Ripemd160.hash (Sha256.hash bytes).bytes

/-- The hash that turns a public key into its key hash, and the one behind address checksums. -/
structure Hashing where
  keyHash : Bytes → Hash160
  checksum : Bytes → Hash256

def Hashing.standard : Hashing :=
  ⟨hash160, sha256d⟩

end Paymaster
