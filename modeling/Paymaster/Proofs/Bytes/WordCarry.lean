import Paymaster.Proofs.Bytes.Numeral
/-!
# Carrying in machine words

A numeral is kept in bytes and multiplied in words of 32 bits, where each product and each
sum is checked. As long as the base times the factor fits in a word no check fails, and
every symbol leaves the numeral of the number that the symbols so far stand for.
-/
namespace Paymaster.Positional

/-- A number as a word, if a word holds it. -/
def word? (n : Nat) : Option UInt32 :=
  if n < 2 ^ 32 then some (UInt32.ofNat n) else none

/-- How a word is split into a digit and a carry. -/
structure WordSplit (base : Nat) where
  one_lt_base : 1 < base
  digit : UInt32 → UInt8
  carry : UInt32 → UInt32
  toNat_digit (word : UInt32) : (digit word).toNat = word.toNat % base
  toNat_carry (word : UInt32) : (carry word).toNat = word.toNat / base

variable {base : Nat}

/-- Multiplies in place from the last digit on; what leaves at the front comes first. -/
def mulAddWords (split : WordSplit base) (factor carry : UInt32) :
    List UInt8 → Option (UInt32 × List UInt8)
  | [] => some (carry, [])
  | digit :: digits => do
    let (carry, digits) ← mulAddWords split factor carry digits
    let product ← word? (digit.toNat * factor.toNat)
    let sum ← word? (product.toNat + carry.toNat)
    return (split.carry sum, split.digit sum :: digits)

/-- Puts digits in front until nothing is carried. -/
def prependWord (split : WordSplit base) (carry : UInt32) (digits : List UInt8) : List UInt8 :=
  if carry = 0 then digits
  else prependWord split (split.carry carry) (split.digit carry :: digits)
termination_by carry.toNat
decreasing_by
  rename_i hcarry
  rw [split.toNat_carry]
  exact Nat.div_lt_self (Nat.pos_of_ne_zero fun h => hcarry (UInt32.toNat_inj.mp h)) split.one_lt_base

def pushWord (split : WordSplit base) (factor : UInt32) (digits : List UInt8) (symbol : UInt8) :
    Option (List UInt8) := do
  let (carry, digits) ← mulAddWords split factor symbol.toUInt32 digits
  return prependWord split carry digits

def pushWords (split : WordSplit base) (factor : UInt32) (digits symbols : List UInt8) :
    Option (List UInt8) :=
  symbols.foldlM (pushWord split factor) digits

/-- Digits of a number, the most significant one first, without a zero in front. -/
structure Represents (base n : Nat) (digits : List UInt8) : Prop where
  isNumeral : IsNumeral base (digits.map UInt8.toNat)
  value_eq : value base (digits.map UInt8.toNat) = n

section Word

private theorem word?_of_lt {n : Nat} (h : n < 2 ^ 32) :
    ∃ word, word? n = some word ∧ word.toNat = n :=
  ⟨UInt32.ofNat n, if_pos h, UInt32.toNat_ofNat_of_lt h⟩

private theorem mul_add_lt {digit factor carry : Nat} (hdigit : digit < base)
    (hcarry : carry < factor) :
    digit * factor + carry < base * factor :=
  calc digit * factor + carry
      < digit * factor + factor := Nat.add_lt_add_left hcarry _
    _ = (digit + 1) * factor := (Nat.succ_mul digit factor).symm
    _ ≤ base * factor := Nat.mul_le_mul_right factor hdigit

private theorem mulAdd_fst_lt {factor carry : Nat} {digits : List Nat}
    (hdigits : ∀ digit ∈ digits, digit < base) (hcarry : carry < factor) :
    (mulAdd base factor carry digits).1 < factor := by
  induction digits with
  | nil => exact hcarry
  | cons digit digits ih =>
    have htail := ih fun d hd => hdigits d (List.mem_cons_of_mem _ hd)
    exact Nat.div_lt_of_lt_mul (mul_add_lt (hdigits digit List.mem_cons_self) htail)

end Word

private theorem map_prependWord (split : WordSplit base) {fuel : Nat} {carry : UInt32}
    (h : carry.toNat ≤ fuel) (digits : List UInt8) :
    (prependWord split carry digits).map UInt8.toNat =
      carryDigits base fuel carry.toNat (digits.map UInt8.toNat) := by
  induction fuel generalizing carry digits with
  | zero =>
    have hzero : carry = 0 := UInt32.toNat_inj.mp (Nat.le_zero.mp h)
    rw [prependWord, if_pos hzero, carryDigits]
  | succ fuel ih =>
    rw [prependWord, carryDigits]
    by_cases hcarry : carry = 0
    · rw [if_pos hcarry, if_pos (by rw [hcarry]; rfl)]
    · have hpositive : carry.toNat ≠ 0 := fun hzero => hcarry (UInt32.toNat_inj.mp hzero)
      have hless : carry.toNat / base < carry.toNat :=
        Nat.div_lt_self (Nat.pos_of_ne_zero hpositive) split.one_lt_base
      rw [if_neg hcarry, if_neg hpositive, ih (by rw [split.toNat_carry]; omega), split.toNat_carry,
        List.map_cons, split.toNat_digit]

section Push

variable (split : WordSplit base) {factor : UInt32} (hfits : base * factor.toNat ≤ 2 ^ 32)
include hfits

private theorem mulAddWords_eq {carry : UInt32} {digits : List UInt8}
    (hdigits : ∀ digit ∈ digits.map UInt8.toNat, digit < base)
    (hcarry : carry.toNat < factor.toNat) :
    ∃ left kept, mulAddWords split factor carry digits = some (left, kept) ∧
      mulAdd base factor.toNat carry.toNat (digits.map UInt8.toNat) =
        (left.toNat, kept.map UInt8.toNat) := by
  induction digits with
  | nil => exact ⟨carry, [], rfl, rfl⟩
  | cons digit digits ih =>
    have hrest : ∀ d ∈ digits.map UInt8.toNat, d < base :=
      fun d hd => hdigits d (List.mem_cons_of_mem _ hd)
    obtain ⟨left, kept, hwords, htail⟩ := ih hrest
    have hleft : left.toNat < factor.toNat := by
      have hfirst := mulAdd_fst_lt hrest hcarry
      rwa [htail] at hfirst
    have hlt := mul_add_lt (hdigits digit.toNat List.mem_cons_self) hleft
    obtain ⟨product, hproduct, hproductNat⟩ :=
      word?_of_lt (n := digit.toNat * factor.toNat) (by omega)
    obtain ⟨sum, hsum, hsumNat⟩ := word?_of_lt (n := product.toNat + left.toNat) (by omega)
    rw [hproductNat] at hsumNat
    refine ⟨split.carry sum, split.digit sum :: kept, ?_, ?_⟩
    · simp only [mulAddWords, hwords, hproduct, hsum, Option.bind_eq_bind, Option.bind_some,
        Option.pure_def]
    · simp only [mulAdd, List.map_cons, htail, split.toNat_carry, split.toNat_digit, hsumNat]

theorem pushWord_eq {digits : List UInt8} {symbol : UInt8}
    (hdigits : ∀ digit ∈ digits.map UInt8.toNat, digit < base)
    (hsymbol : symbol.toNat < factor.toNat) :
    ∃ pushed, pushWord split factor digits symbol = some pushed ∧
      pushed.map UInt8.toNat =
        push base factor.toNat (digits.map UInt8.toNat) symbol.toNat := by
  have hword : symbol.toUInt32.toNat = symbol.toNat := UInt8.toNat_toUInt32 symbol
  have hcarry : symbol.toUInt32.toNat < factor.toNat := by rwa [hword]
  obtain ⟨left, kept, hwords, hmulAdd⟩ := mulAddWords_eq split hfits hdigits hcarry
  rw [hword] at hmulAdd
  refine ⟨prependWord split left kept, ?_, ?_⟩
  · simp only [pushWord, hwords, Option.bind_eq_bind, Option.bind_some, Option.pure_def]
  · rw [map_prependWord split (Nat.le_refl _), push, hmulAdd, prepend]

theorem Represents.pushWord {n : Nat} {digits : List UInt8} {symbol : UInt8}
    (h : Represents base n digits) (hsymbol : symbol.toNat < factor.toNat) :
    ∃ pushed, pushWord split factor digits symbol = some pushed ∧
      Represents base (n * factor.toNat + symbol.toNat) pushed := by
  obtain ⟨pushed, hpushed, hmap⟩ := pushWord_eq split hfits h.isNumeral.lt hsymbol
  refine ⟨pushed, hpushed, ?_, ?_⟩
  · rw [hmap]
    exact isNumeral_push split.one_lt_base (by omega) h.isNumeral _
  · rw [hmap, value_push split.one_lt_base, h.value_eq]

end Push

section Seed

/-- Digits that began as one zero, which stays as long as the number is zero. -/
inductive RepresentsSeeded (base : Nat) : Nat → List UInt8 → Prop where
  | seed : RepresentsSeeded base 0 [0]
  | numeral {n : Nat} {digits : List UInt8} (hn : n ≠ 0) (h : Represents base n digits) :
    RepresentsSeeded base n digits

private theorem push_seed (base factor digit : Nat) :
    push base factor [0] digit = prepend base (digit / base) [digit % base] := by
  simp only [push, mulAdd, Nat.zero_mul, Nat.zero_add]

private theorem isNumeral_push_seed (hbase : 1 < base) (factor : Nat) {digit : Nat}
    (hdigit : digit ≠ 0) :
    IsNumeral base (push base factor [0] digit) where
  lt := push_lt (by omega) factor [0] digit
  head := by
    rw [push_seed, prepend]
    by_cases hcarry : digit / base = 0
    · have hmod : digit % base = digit :=
        Nat.mod_eq_of_lt ((Nat.div_eq_zero_iff_lt (by omega)).mp hcarry)
      rw [hcarry, hmod]
      simpa [carryDigits] using hdigit
    · exact head_carryDigits hbase (Nat.le_refl _) hcarry _

private theorem push_seed_zero (base factor : Nat) : push base factor [0] 0 = [0] := by
  rw [push_seed, Nat.zero_div, Nat.zero_mod]
  rfl

variable (split : WordSplit base) {factor : UInt32} (hfits : base * factor.toNat ≤ 2 ^ 32)
include hfits

/-- The seed gives way to the first symbol that is not zero. -/
private theorem pushWord_seed {symbol : UInt8} (hsymbol : symbol.toNat < factor.toNat) :
    ∃ pushed, pushWord split factor [0] symbol = some pushed ∧
      RepresentsSeeded base symbol.toNat pushed := by
  have hbase := split.one_lt_base
  have hseed : ∀ digit ∈ [(0 : UInt8)].map UInt8.toNat, digit < base := by
    simp
    omega
  obtain ⟨pushed, hpushed, hmap⟩ := pushWord_eq split hfits hseed hsymbol
  refine ⟨pushed, hpushed, ?_⟩
  change pushed.map UInt8.toNat = push base factor.toNat [0] symbol.toNat at hmap
  by_cases hzero : symbol.toNat = 0
  · rw [hzero, push_seed_zero] at hmap
    have hstays : pushed = [0] :=
      List.map_injective_iff.mpr (fun _ _ => UInt8.toNat_inj.mp) hmap
    rw [hzero, hstays]
    exact .seed
  · refine .numeral hzero ⟨?_, ?_⟩
    · rw [hmap]
      exact isNumeral_push_seed hbase _ hzero
    · rw [hmap, value_push hbase]
      simp

theorem RepresentsSeeded.pushWord {n : Nat} {digits : List UInt8} {symbol : UInt8}
    (h : RepresentsSeeded base n digits) (hsymbol : symbol.toNat < factor.toNat) :
    ∃ pushed, pushWord split factor digits symbol = some pushed ∧
      RepresentsSeeded base (n * factor.toNat + symbol.toNat) pushed := by
  cases h with
  | seed =>
    rw [Nat.zero_mul, Nat.zero_add]
    exact pushWord_seed split hfits hsymbol
  | numeral hn h =>
    obtain ⟨pushed, hpushed, hrepresents⟩ := h.pushWord split hfits hsymbol
    have hpositive : 0 < n * factor.toNat := Nat.mul_pos (Nat.pos_of_ne_zero hn) (by omega)
    exact ⟨pushed, hpushed, .numeral (by omega) hrepresents⟩

end Seed

section Run

private theorem value_concat (base : Nat) (digits : List Nat) (digit : Nat) :
    value base (digits ++ [digit]) = value base digits * base + digit := by
  rw [value, List.foldl_append]
  rfl

theorem pushWords_append (split : WordSplit base) (factor : UInt32) (digits first rest : List UInt8) :
    pushWords split factor digits (first ++ rest) =
      (pushWords split factor digits first).bind fun pushed => pushWords split factor pushed rest :=
  List.foldlM_append

variable (split : WordSplit base) (factor : UInt32)

/-- What each symbol keeps is kept by all, of the number that they stand for. -/
theorem exists_pushWords {Holds : Nat → List UInt8 → Prop} {start : List UInt8}
    (hstart : Holds 0 start)
    (hstep : ∀ {n digits symbol}, Holds n digits → symbol.toNat < factor.toNat →
      ∃ pushed, pushWord split factor digits symbol = some pushed ∧
        Holds (n * factor.toNat + symbol.toNat) pushed)
    {symbols : List UInt8} (hsymbols : ∀ symbol ∈ symbols, symbol.toNat < factor.toNat) :
    ∃ digits, pushWords split factor start symbols = some digits ∧
      Holds (value factor.toNat (symbols.map UInt8.toNat)) digits := by
  induction symbols using List.reverseRecOn with
  | nil => exact ⟨start, rfl, hstart⟩
  | append_singleton symbols symbol ih =>
    obtain ⟨digits, hrun, hdigits⟩ :=
      ih fun s hs => hsymbols s (List.mem_append_left _ hs)
    have hlast : symbol.toNat < factor.toNat :=
      hsymbols symbol (List.mem_append_right _ List.mem_cons_self)
    obtain ⟨pushed, hpushed, hholds⟩ := hstep hdigits hlast
    refine ⟨pushed, ?_, ?_⟩
    · rw [pushWords_append, hrun, Option.bind_some, pushWords, List.foldlM_cons, hpushed]
      rfl
    · rw [List.map_append, List.map_singleton, value_concat]
      exact hholds

variable (hfits : base * factor.toNat ≤ 2 ^ 32)
include hfits

theorem exists_pushWords_of_empty {symbols : List UInt8}
    (hsymbols : ∀ symbol ∈ symbols, symbol.toNat < factor.toNat) :
    ∃ digits, pushWords split factor [] symbols = some digits ∧
      Represents base (value factor.toNat (symbols.map UInt8.toNat)) digits :=
  exists_pushWords split factor ⟨⟨nofun, nofun⟩, rfl⟩
    (fun h hsymbol => h.pushWord split hfits hsymbol) hsymbols

theorem exists_pushWords_seeded {symbols : List UInt8}
    (hsymbols : ∀ symbol ∈ symbols, symbol.toNat < factor.toNat) :
    ∃ digits, pushWords split factor [0] symbols = some digits ∧
      RepresentsSeeded base (value factor.toNat (symbols.map UInt8.toNat)) digits :=
  exists_pushWords split factor .seed (fun h hsymbol => h.pushWord split hfits hsymbol) hsymbols

end Run

end Paymaster.Positional
