import Paymaster.Script
/-!
# Script forms

A framed script is read exactly if it was put together from the frame and a body of
the right width. So every standard script is recognised by its own form, and a public
key is paid under the hash that stands in its key-hash script.
-/
namespace Paymaster.Script

theorem framed?_eq_some_iff {frame : Bytes × Bytes} {width : Nat} {script : Bytes}
    {body : FixedBytes width} :
    framed? frame width script = some body ↔ script = inFrame frame body.bytes := by
  rw [framed?, inFrame]
  constructor
  · intro h
    split at h
    · next hframe =>
      obtain ⟨hbefore, hafter⟩ := hframe
      have hbody := FixedBytes.ofBytes?_eq_some_iff.mp h
      calc script
        _ = script.take frame.1.length ++ script.drop frame.1.length :=
          (List.take_append_drop _ _).symm
        _ = frame.1 ++ ((script.drop frame.1.length).take width ++
              (script.drop frame.1.length).drop width) := by
          rw [hbefore, List.take_append_drop]
        _ = frame.1 ++ body.bytes ++ frame.2 := by rw [← hbody, hafter, List.append_assoc]
    · cases h
  · rintro rfl
    have hbefore : (frame.1 ++ body.bytes ++ frame.2).take frame.1.length = frame.1 := by
      rw [List.append_assoc, List.take_left]
    have hinner : (frame.1 ++ body.bytes ++ frame.2).drop frame.1.length = body.bytes ++ frame.2 := by
      rw [List.append_assoc, List.drop_left]
    have hafter : (body.bytes ++ frame.2).drop width = frame.2 :=
      List.drop_left' body.length_bytes
    have hbody : (body.bytes ++ frame.2).take width = body.bytes :=
      List.take_left' body.length_bytes
    rw [hinner, if_pos ⟨hbefore, hafter⟩, hbody, FixedBytes.ofBytes?_bytes]

theorem framed?_eq_none_of_head {frame : Bytes × Bytes} {first : UInt8} (width : Nat) {script : Bytes}
    (hframe : frame.1.head? = some first) (hscript : script.head? ≠ some first) :
    framed? frame width script = none := by
  cases h : framed? frame width script with
  | none => rfl
  | some body =>
    obtain rfl := framed?_eq_some_iff.mp h
    rw [inFrame, List.append_assoc, List.head?_append, hframe] at hscript
    exact absurd rfl hscript

/-- A public key of one of the two sizes, with a header byte of that size. -/
def IsPublicKey (key : Bytes) : Prop :=
  key.length = 33 ∧ key.head?.any (· ∈ [0x02, 0x03]) ∨
    key.length = 65 ∧ key.head?.any (· ∈ [0x04, 0x06, 0x07])

/-- The script that pays to a public key itself. -/
def payToPublicKey (key : Bytes) : Bytes :=
  inFrame (publicKeyFrame (UInt8.ofNat key.length)) key

theorem publicKeyOf?_inFrame {size : UInt8} {headers : List UInt8} {key : Bytes}
    (hlength : key.length = size.toNat) (hheader : key.head?.any (· ∈ headers)) :
    publicKeyOf? size headers (inFrame (publicKeyFrame size) key) = some key := by
  have hframed : framed? (publicKeyFrame size) size.toNat (inFrame (publicKeyFrame size) key) =
      some ⟨key, hlength⟩ := framed?_eq_some_iff.mpr rfl
  rw [publicKeyOf?, hframed]
  dsimp only
  rw [if_pos hheader]

theorem publicKey?_payToPublicKey {key : Bytes} (h : IsPublicKey key) :
    publicKey? (payToPublicKey key) = some key := by
  rcases h with ⟨hlength, hheader⟩ | ⟨hlength, hheader⟩
  · rw [publicKey?, payToPublicKey, hlength]
    change (publicKeyOf? 33 _ (inFrame (publicKeyFrame 33) key)).or _ = _
    rw [publicKeyOf?_inFrame hlength hheader, Option.some_or]
  · have hother : publicKeyOf? 33 [0x02, 0x03] (inFrame (publicKeyFrame 65) key) = none := by
      rw [publicKeyOf?, framed?_eq_none_of_head _ rfl (by simp [inFrame, publicKeyFrame])]
    rw [publicKey?, payToPublicKey, hlength]
    change (publicKeyOf? 33 _ (inFrame (publicKeyFrame 65) key)).or _ = _
    rw [hother, Option.none_or]
    exact publicKeyOf?_inFrame hlength hheader

theorem head?_payToPublicKey (key : Bytes) :
    (payToPublicKey key).head? = some (UInt8.ofNat key.length) := rfl

theorem form_payToKeyHash (hash : Hash160) : form (payToKeyHash hash) = .keyHash hash := by
  have hframed : framed? keyHashFrame 20 (payToKeyHash hash) = some hash :=
    framed?_eq_some_iff.mpr rfl
  rw [form, hframed]

theorem form_payToPublicKey {key : Bytes} (h : IsPublicKey key) :
    form (payToPublicKey key) = .publicKey key := by
  have hlength : key.length = 33 ∨ key.length = 65 := h.imp And.left And.left
  have hkeyHash : framed? keyHashFrame 20 (payToPublicKey key) = none := by
    apply framed?_eq_none_of_head _ rfl
    rw [head?_payToPublicKey]
    rcases hlength with hlength | hlength <;> rw [hlength] <;> decide
  have hscriptHash : framed? scriptHashFrame 20 (payToPublicKey key) = none := by
    apply framed?_eq_none_of_head _ rfl
    rw [head?_payToPublicKey]
    rcases hlength with hlength | hlength <;> rw [hlength] <;> decide
  rw [form, hkeyHash, hscriptHash]
  dsimp only
  rw [publicKey?_payToPublicKey h]

theorem destination?_payToKeyHash (keyHash : Bytes → Hash160) (hash : Hash160) :
    destination? keyHash (payToKeyHash hash) = some (.key hash) := by
  rw [destination?, form_payToKeyHash]

/-- A public key and its hash are one destination. -/
theorem destination?_payToPublicKey (keyHash : Bytes → Hash160) {key : Bytes} (h : IsPublicKey key) :
    destination? keyHash (payToPublicKey key) = some (.key (keyHash key)) := by
  rw [destination?, form_payToPublicKey h]

end Paymaster.Script
