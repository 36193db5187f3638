/-!
# Byte strings

Byte strings of any length, and byte strings whose width is part of the type:
block hashes have 32 bytes, key and script hashes 20.
-/
namespace Paymaster

abbrev Bytes := List UInt8

structure FixedBytes (width : Nat) where
  bytes : Bytes
  length_bytes : bytes.length = width
deriving DecidableEq

abbrev Hash160 := FixedBytes 20

abbrev Hash256 := FixedBytes 32

namespace FixedBytes

theorem bytes_inj {width : Nat} {a b : FixedBytes width} (h : a.bytes = b.bytes) : a = b := by
  cases a
  cases b
  simp_all

/-- Accepts exactly the byte strings of the given width. -/
def ofBytes? (width : Nat) (bytes : Bytes) : Option (FixedBytes width) :=
  if h : bytes.length = width then some ⟨bytes, h⟩ else none

theorem ofBytes?_eq_some_iff {width : Nat} {bytes : Bytes} {fixed : FixedBytes width} :
    ofBytes? width bytes = some fixed ↔ fixed.bytes = bytes := by
  unfold ofBytes?
  split
  · next h =>
    constructor
    · intro hf
      cases hf
      rfl
    · intro hf
      subst hf
      rfl
  · next h => exact ⟨nofun, fun hf => absurd (hf ▸ fixed.length_bytes) h⟩

@[simp] theorem ofBytes?_bytes {width : Nat} (fixed : FixedBytes width) :
    ofBytes? width fixed.bytes = some fixed :=
  ofBytes?_eq_some_iff.mpr rfl

def zero (width : Nat) : FixedBytes width :=
  ⟨List.replicate width 0, List.length_replicate⟩

end FixedBytes

end Paymaster
