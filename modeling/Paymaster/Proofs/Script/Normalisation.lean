import Paymaster.Proofs.Address.Codec
import Paymaster.Proofs.Script.Offsets
/-!
# Scripts and their addresses

A script with a destination has an address, and reading the address back gives the
standard script of the destination. That is the script itself, unless it pays to a
public key: then it is the script of the key's hash.
-/
namespace Paymaster.Script

theorem destination?_eq_none_iff {keyHash : Bytes → Hash160} {script : Bytes} :
    destination? keyHash script = none ↔ ∀ f, ¬ HasForm script f := by
  rw [destination?]
  constructor
  · intro h f hf
    rw [hf.form_eq] at h
    cases hf <;> cases h
  · intro h
    rw [(hasForm_or_other script).resolve_left (h _)]

theorem toScript_ofScript? {hashing : Hashing} {script : Bytes} {destination : Destination}
    (h : destination? hashing.keyHash script = some destination) (network : Network) :
    ∃ address, Address.ofScript? hashing network script = some address ∧
      Address.toScript hashing network address = .ok destination.toScript := by
  refine ⟨Address.encode hashing network destination, ?_, ?_⟩
  · rw [Address.ofScript?, h]
    rfl
  · rw [Address.toScript, Address.decode_eq_ok_iff.mpr rfl]
    rfl

/-- Scripts have destinations by an exact grammar, whatever the hashes are. Read at fixed offsets, no
script makes a read leave it. A key is paid by its hash in the one frame or by itself in the other, a
script hash in a third, and every other script pays nobody; no script is of two kinds. Through its
address a script becomes the standard one of its destination, which is the same script unless it pays
to a public key. -/
theorem destination_grammar (hashing : Hashing) (script : Bytes) :
    formAt script = .ok (form script) ∧
    (∀ hash, destination? hashing.keyHash script = some (.key hash) ↔
      script = [0x76, 0xa9, 0x14] ++ hash.bytes ++ [0x88, 0xac] ∨
        ∃ key, IsPublicKey key ∧ script = [UInt8.ofNat key.length] ++ key ++ [0xac] ∧
          hash = hashing.keyHash key) ∧
    (∀ hash, destination? hashing.keyHash script = some (.script hash) ↔
      script = [0xa9, 0x14] ++ hash.bytes ++ [0x87]) ∧
    (destination? hashing.keyHash script = none ↔ ∀ f, ¬ HasForm script f) ∧
    (∀ f g, HasForm script f → HasForm script g → f = g) ∧
    ∀ network destination, destination? hashing.keyHash script = some destination →
      ∃ address, Address.ofScript? hashing network script = some address ∧
        Address.toScript hashing network address = .ok destination.toScript ∧
        destination? hashing.keyHash destination.toScript = some destination ∧
        (destination.toScript = script ↔
          ¬ ∃ key, IsPublicKey key ∧ script = [UInt8.ofNat key.length] ++ key ++ [0xac]) := by
  refine ⟨formAt_eq script, fun hash => destination?_eq_key_iff,
    fun hash => destination?_eq_script_iff, destination?_eq_none_iff, fun f g hf hg => hf.unique hg,
    ?_⟩
  intro network destination h
  obtain ⟨address, haddress, hscript⟩ := toScript_ofScript? h network
  exact ⟨address, haddress, hscript, destination?_toScript hashing.keyHash destination,
    toScript_eq_iff h⟩

/-- A compressed public key. -/
def smallKey : Bytes :=
  0x02 :: List.replicate 32 0x11

theorem destination_grammar_small :
    IsPublicKey smallKey ∧
    destination? hash160 (payToPublicKey smallKey) = some (.key (hash160 smallKey)) ∧
    ∃ address, Address.ofScript? .standard .mainnet (payToPublicKey smallKey) = some address ∧
      Address.toScript .standard .mainnet address = .ok (payToKeyHash (hash160 smallKey)) ∧
      payToKeyHash (hash160 smallKey) ≠ payToPublicKey smallKey := by
  have hkey : IsPublicKey smallKey := .inl ⟨rfl, rfl⟩
  have hdestination : destination? hash160 (payToPublicKey smallKey) =
      some (.key (hash160 smallKey)) :=
    destination?_payToPublicKey hash160 hkey
  obtain ⟨_, _, _, _, _, hnormal⟩ := destination_grammar .standard (payToPublicKey smallKey)
  obtain ⟨address, haddress, hscript, _, hother⟩ := hnormal .mainnet _ hdestination
  refine ⟨hkey, hdestination, address, haddress, hscript, ?_⟩
  intro hsame
  exact hother.mp hsame ⟨smallKey, hkey, rfl⟩

end Paymaster.Script
