import Mathlib.Data.List.Infix
import Mathlib.Data.List.Basic
import Paymaster.Bytes.Hex
/-!
# Half bytes

The digits of a hexadecimal text stand for half bytes. A search in the text goes by
digits, so it finds bytes at every place where their half bytes stand in a row: at a
byte, or half a byte later, where the search crosses the borders of all bytes.
-/
namespace Paymaster.Hex

def highHalf (b : UInt8) : Fin 16 :=
  ⟨b.toNat / 16, by have := b.toNat_lt; omega⟩

def lowHalf (b : UInt8) : Fin 16 :=
  ⟨b.toNat % 16, by omega⟩

/-- The byte with these halves. -/
def joinHalves (high low : Fin 16) : UInt8 :=
  UInt8.ofNat (16 * high + low)

def halfBytes (bytes : Bytes) : List (Fin 16) :=
  bytes.flatMap fun b => [highHalf b, lowHalf b]

/-- The bytes half a byte later, with one half byte before them and one behind. -/
def shifted (first last : Fin 16) : Bytes → Bytes
  | [] => [joinHalves first last]
  | b :: bs => joinHalves first (highHalf b) :: shifted (lowHalf b) last bs

private theorem toNat_joinHalves (high low : Fin 16) :
    (joinHalves high low).toNat = 16 * high + low := by
  rw [joinHalves, UInt8.toNat_ofNat']
  omega

@[simp] theorem highHalf_joinHalves (high low : Fin 16) : highHalf (joinHalves high low) = high := by
  apply Fin.ext
  simp only [highHalf, toNat_joinHalves]
  omega

@[simp] theorem lowHalf_joinHalves (high low : Fin 16) : lowHalf (joinHalves high low) = low := by
  apply Fin.ext
  simp only [lowHalf, toNat_joinHalves]
  omega

@[simp] theorem joinHalves_halves (b : UInt8) : joinHalves (highHalf b) (lowHalf b) = b := by
  apply UInt8.toNat_inj.mp
  simp only [toNat_joinHalves, highHalf, lowHalf]
  omega

private theorem joinHalves_eq_iff {high low : Fin 16} {b : UInt8} :
    joinHalves high low = b ↔ high = highHalf b ∧ low = lowHalf b := by
  constructor
  · rintro rfl
    simp
  · rintro ⟨rfl, rfl⟩
    simp

@[simp] theorem halfBytes_nil : halfBytes [] = [] := rfl

@[simp] theorem halfBytes_cons (b : UInt8) (bs : Bytes) :
    halfBytes (b :: bs) = highHalf b :: lowHalf b :: halfBytes bs := rfl

theorem halfBytes_shifted (first last : Fin 16) (bytes : Bytes) :
    halfBytes (shifted first last bytes) = first :: (halfBytes bytes ++ [last]) := by
  induction bytes generalizing first with
  | nil => simp [shifted]
  | cons b bs ih => simp [shifted, ih]

/-- The digit that a half byte is written as. -/
def halfDigit (half : Fin 16) : Char :=
  Nat.digitChar half

private theorem halfDigit_injective : Function.Injective halfDigit := by
  have hdigits : ∀ left right, halfDigit left = halfDigit right → left = right := by decide
  intro left right h
  exact hdigits left right h

private theorem digits_eq_map_halfBytes (bytes : Bytes) :
    digits bytes = (halfBytes bytes).map halfDigit := by
  induction bytes with
  | nil => rfl
  | cons b bs ih =>
    rw [digits_cons, ih]
    rfl

theorem digits_infix_iff {part bytes : Bytes} :
    digits part <:+: digits bytes ↔ halfBytes part <:+: halfBytes bytes := by
  rw [digits_eq_map_halfBytes, digits_eq_map_halfBytes]
  constructor
  · intro h
    obtain ⟨halves, hinfix, heq⟩ := List.infix_map_iff.mp h
    rwa [List.map_injective_iff.mpr halfDigit_injective heq]
  · intro h
    exact h.map _

private theorem halfBytes_prefix_iff {part bytes : Bytes} :
    halfBytes part <+: halfBytes bytes ↔ part <+: bytes := by
  induction part generalizing bytes with
  | nil => simp
  | cons p ps ih =>
    cases bytes with
    | nil => simp
    | cons b bs =>
      have hsame : p = b ↔ highHalf p = highHalf b ∧ lowHalf p = lowHalf b := by
        rw [← joinHalves_eq_iff, joinHalves_halves]
      simp only [halfBytes_cons, List.cons_prefix_cons, ih, hsame, and_assoc]

/-- Behind one half byte the others are found where they stand half a byte later. -/
private theorem cons_halfBytes_prefix_iff {first : Fin 16} {part bytes : Bytes} :
    first :: halfBytes part <+: halfBytes bytes ↔ ∃ last, shifted first last part <+: bytes := by
  induction part generalizing first bytes with
  | nil => cases bytes <;> simp [shifted, joinHalves_eq_iff]
  | cons p ps ih =>
    cases bytes with
    | nil => simp [shifted]
    | cons b bs =>
      simp only [halfBytes_cons, shifted, List.cons_prefix_cons, joinHalves_eq_iff, ih,
        exists_and_left, and_assoc]

private theorem halfBytes_prefix_lowHalf_iff {part bytes : Bytes} {b : UInt8} :
    halfBytes part <+: lowHalf b :: halfBytes bytes ↔
      ∃ first last, shifted first last part <+: b :: bytes := by
  constructor
  · intro h
    have hwhole : highHalf b :: halfBytes part <+: halfBytes (b :: bytes) :=
      List.cons_prefix_cons.mpr ⟨rfl, h⟩
    exact ⟨highHalf b, cons_halfBytes_prefix_iff.mp hwhole⟩
  · rintro ⟨first, hshifted⟩
    exact (List.cons_prefix_cons.mp (cons_halfBytes_prefix_iff.mpr hshifted)).2

/-- Half bytes stand in a row at the bytes themselves, or half a byte later. -/
theorem halfBytes_infix_iff {part bytes : Bytes} :
    halfBytes part <:+: halfBytes bytes ↔
      part <:+: bytes ∨ ∃ first last, shifted first last part <:+: bytes := by
  induction bytes with
  | nil =>
    have hshifted (first last : Fin 16) : shifted first last part ≠ [] := by
      cases part <;> simp [shifted]
    have hempty : halfBytes part = [] ↔ part = [] := by
      cases part <;> simp
    simp [hempty, hshifted]
  | cons b bytes ih =>
    simp only [halfBytes_cons, List.infix_cons_iff, ih, halfBytes_prefix_lowHalf_iff, exists_or]
    rw [← halfBytes_cons, halfBytes_prefix_iff]
    exact (or_congr_right or_left_comm).trans or_assoc.symm

theorem digits_infix_iff_shifted {part bytes : Bytes} :
    digits part <:+: digits bytes ↔
      part <:+: bytes ∨ ∃ first last, shifted first last part <:+: bytes :=
  digits_infix_iff.trans halfBytes_infix_iff

end Paymaster.Hex
