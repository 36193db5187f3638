import Paymaster.Address
import Paymaster.Proofs.Bytes.Base58
/-!
# Addresses and destinations

Whatever the checksum is, the address of a destination reads back as it on every
network with the same version bytes and is refused for its version on the others.
No other text reads as the destination, and no other destination has the address.
-/
namespace Paymaster.Address

variable {hashing : Hashing} {network : Network}

private theorem length_checksum (hashing : Hashing) (payload : Bytes) :
    (checksum hashing payload).length = 4 := by
  rw [checksum, List.length_take, FixedBytes.length_bytes]
  rfl

private theorem split_checksum (hashing : Hashing) (payload : Bytes) :
    let bytes := payload ++ checksum hashing payload
    ¬ bytes.length < 4 ∧ bytes.take (bytes.length - 4) = payload ∧
      bytes.drop (bytes.length - 4) = checksum hashing payload := by
  intro bytes
  have hlength : bytes.length = payload.length + 4 := by
    rw [List.length_append, length_checksum]
  rw [hlength, Nat.add_sub_cancel]
  exact ⟨by omega, List.take_left, List.drop_left⟩

private theorem decodeChecked_eq_ok_iff {text : List Char} {payload : Bytes} :
    decodeChecked hashing text = .ok payload ↔ encodeChecked hashing payload = text := by
  rw [encodeChecked, ← Base58.decode?_eq_some_iff, decodeChecked]
  cases Base58.decode? text with
  | none => simp
  | some bytes =>
    dsimp only
    constructor
    · intro h
      split at h
      · cases h
      · split at h
        · next hchecksum =>
          cases h
          rw [← hchecksum, List.take_append_drop]
        · cases h
    · intro h
      cases h
      obtain ⟨hlength, htake, hdrop⟩ := split_checksum hashing payload
      rw [if_neg hlength, htake, if_pos hdrop]

private theorem ofPayload_cons (network : Network) (version : UInt8) (hash : Hash160) :
    ofPayload network (version :: hash.bytes) =
      if version = network.addressVersions.key then .ok (.key hash)
      else if version = network.addressVersions.script then .ok (.script hash)
      else .error .unknownVersion := by
  simp only [ofPayload, FixedBytes.ofBytes?_bytes]

private theorem ofPayload_payload (written read : Network) (destination : Destination) :
    ofPayload read (payload written destination) =
      if written = .mainnet ↔ read = .mainnet then .ok destination else .error .unknownVersion := by
  cases destination <;> rw [payload, ofPayload_cons] <;> cases written <;> cases read <;> rfl

private theorem payload_of_ofPayload {bytes : Bytes} {destination : Destination}
    (h : ofPayload network bytes = .ok destination) : payload network destination = bytes := by
  cases bytes with
  | nil => cases h
  | cons version rest =>
    cases hrest : FixedBytes.ofBytes? 20 rest with
    | none =>
      rw [ofPayload, hrest] at h
      cases h
    | some hash =>
      obtain rfl := FixedBytes.ofBytes?_eq_some_iff.mp hrest
      rw [ofPayload_cons] at h
      split at h
      · next hkey =>
        cases h
        rw [payload, hkey]
      · split at h
        · next hscript =>
          cases h
          rw [payload, hscript]
        · cases h

private theorem toList_encode (hashing : Hashing) (network : Network) (destination : Destination) :
    (encode hashing network destination).toList =
      encodeChecked hashing (payload network destination) :=
  String.toList_ofList

theorem decode_encode (hashing : Hashing) (written read : Network) (destination : Destination) :
    decode hashing read (encode hashing written destination) =
      if written = .mainnet ↔ read = .mainnet then .ok destination else .error .unknownVersion := by
  have hchecked : decodeChecked hashing (encode hashing written destination).toList =
      .ok (payload written destination) :=
    decodeChecked_eq_ok_iff.mpr (toList_encode hashing written destination).symm
  rw [decode, hchecked]
  exact ofPayload_payload written read destination

theorem encode_of_decode {text : String} {destination : Destination}
    (h : decode hashing network text = .ok destination) :
    encode hashing network destination = text := by
  rw [decode] at h
  cases hchecked : decodeChecked hashing text.toList with
  | error e =>
    rw [hchecked] at h
    cases h
  | ok bytes =>
    rw [hchecked] at h
    rw [encode, payload_of_ofPayload h, decodeChecked_eq_ok_iff.mp hchecked, String.ofList_toList]

theorem decode_eq_ok_iff {text : String} {destination : Destination} :
    decode hashing network text = .ok destination ↔ text = encode hashing network destination := by
  constructor
  · intro h
    exact (encode_of_decode h).symm
  · rintro rfl
    rw [decode_encode, if_pos Iff.rfl]

theorem encode_eq_encode_iff {left right : Network} {destination other : Destination} :
    encode hashing left destination = encode hashing right other ↔
      destination = other ∧ (left = .mainnet ↔ right = .mainnet) := by
  constructor
  · intro h
    have hread := decode_encode hashing left right destination
    rw [h, decode_encode, if_pos Iff.rfl] at hread
    split at hread
    · next hfamily =>
      cases hread
      exact ⟨rfl, hfamily⟩
    · cases hread
  · rintro ⟨rfl, hfamily⟩
    have hread := decode_encode hashing left right destination
    rw [if_pos hfamily] at hread
    exact decode_eq_ok_iff.mp hread

/-- Addresses and destinations correspond one to one. The address of a destination reads back on
mainnet if it was written there and on a test network if it was written on one; what reads as a
destination is its address; and two destinations never share one, not even a key and a script of
the same hash. -/
theorem address_codec_bijective (hashing : Hashing) :
    (∀ destination written read, decode hashing read (encode hashing written destination) =
      if written = .mainnet ↔ read = .mainnet then .ok destination else .error .unknownVersion) ∧
    (∀ text network destination, decode hashing network text = .ok destination ↔
      text = encode hashing network destination) ∧
    (∀ network destination, ∃! text, decode hashing network text = .ok destination) ∧
    (∀ left right destination other,
      encode hashing left destination = encode hashing right other ↔
        destination = other ∧ (left = .mainnet ↔ right = .mainnet)) := by
  refine ⟨?_, ?_, ?_, ?_⟩
  · intro destination written read
    exact decode_encode hashing written read destination
  · intro text network destination
    exact decode_eq_ok_iff
  · intro network destination
    exact ⟨_, decode_eq_ok_iff.mpr rfl, fun text h => decode_eq_ok_iff.mp h⟩
  · intro left right destination other
    exact encode_eq_encode_iff

end Paymaster.Address
