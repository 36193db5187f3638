import Mathlib.Data.List.TakeWhile
import Mathlib.Data.Nat.Digits.Lemmas
import Paymaster.Bytes.Positional
/-!
# Numerals and the numbers they stand for

A numeral has digits below its base and no zero in front, and is the only one of
its number. Pushing a digit of another base multiplies the number and adds the
digit, and what is pushed stays a numeral. Changing the base and keeping leading
zeros one by one therefore loses nothing.
-/
namespace Paymaster.Positional

variable {base factor : Nat}

@[simp] theorem value_nil (base : Nat) : value base [] = 0 := rfl

private theorem value_eq_ofDigits (base : Nat) (digits : List Nat) :
    value base digits = Nat.ofDigits base digits.reverse := by
  induction digits using List.reverseRecOn with
  | nil => rfl
  | append_singleton digits digit ih =>
    rw [value, List.foldl_append, ← value, ih, List.reverse_append]
    simp only [List.foldl_cons, List.foldl_nil, List.reverse_singleton, List.singleton_append,
      Nat.ofDigits_cons]
    rw [Nat.mul_comm, Nat.add_comm]

@[simp] theorem value_cons (base digit : Nat) (digits : List Nat) :
    value base (digit :: digits) = digit * base ^ digits.length + value base digits := by
  rw [value_eq_ofDigits, value_eq_ofDigits, Nat.ofDigits_reverse_cons, Nat.mul_comm, Nat.add_comm]

/-- The digits of a number, the most significant one first; zero has none. -/
def ofNat (base n : Nat) : List Nat :=
  (Nat.digits base n).reverse

theorem value_ofNat (base n : Nat) : value base (ofNat base n) = n := by
  rw [value_eq_ofDigits, ofNat, List.reverse_reverse, Nat.ofDigits_digits]

/-- Digits below the base, and no zero in front. -/
structure IsNumeral (base : Nat) (digits : List Nat) : Prop where
  lt : ∀ digit ∈ digits, digit < base
  head : digits.head? ≠ some 0

theorem isNumeral_ofNat (hbase : 1 < base) (n : Nat) : IsNumeral base (ofNat base n) where
  lt digit hdigit := Nat.digits_lt_base hbase (List.mem_reverse.mp hdigit)
  head := by
    rw [ofNat, List.head?_reverse]
    intro hlast
    have hne : Nat.digits base n ≠ [] := by
      intro hnil
      simp [hnil] at hlast
    rw [List.getLast?_eq_some_getLast hne] at hlast
    exact Nat.getLast_digit_ne_zero base (Nat.digits_ne_nil_iff_ne_zero.mp hne)
      (Option.some.inj hlast)

/-- A numeral is the only one of its number. -/
theorem ofNat_value (hbase : 1 < base) {digits : List Nat} (h : IsNumeral base digits) :
    ofNat base (value base digits) = digits := by
  have hlt : ∀ digit ∈ digits.reverse, digit < base :=
    fun digit hdigit => h.lt digit (List.mem_reverse.mp hdigit)
  have hlast : ∀ hne : digits.reverse ≠ [], digits.reverse.getLast hne ≠ 0 := by
    intro hne hzero
    apply h.head
    rw [← List.getLast?_reverse, List.getLast?_eq_some_getLast hne, hzero]
  rw [ofNat, value_eq_ofDigits, Nat.digits_ofDigits base hbase _ hlt hlast, List.reverse_reverse]

section Push

private theorem length_mulAdd (base factor carry : Nat) (digits : List Nat) :
    (mulAdd base factor carry digits).2.length = digits.length := by
  induction digits with
  | nil => rfl
  | cons digit digits ih => simp [mulAdd, ih]

private theorem value_mulAdd (base factor carry : Nat) (digits : List Nat) :
    (mulAdd base factor carry digits).1 * base ^ digits.length +
        value base (mulAdd base factor carry digits).2 =
      value base digits * factor + carry := by
  induction digits with
  | nil => simp [mulAdd]
  | cons digit digits ih =>
    generalize htail : mulAdd base factor carry digits = tail at ih
    have hlength : tail.2.length = digits.length := by rw [← htail, length_mulAdd]
    have hdivMod := Nat.div_add_mod (digit * factor + tail.1) base
    simp only [mulAdd, htail, value_cons, List.length_cons, hlength]
    calc (digit * factor + tail.1) / base * base ^ (digits.length + 1) +
          ((digit * factor + tail.1) % base * base ^ digits.length + value base tail.2)
        = (base * ((digit * factor + tail.1) / base) + (digit * factor + tail.1) % base) *
            base ^ digits.length + value base tail.2 := by ring
      _ = digit * base ^ digits.length * factor +
            (tail.1 * base ^ digits.length + value base tail.2) := by rw [hdivMod]; ring
      _ = (digit * base ^ digits.length + value base digits) * factor + carry := by rw [ih]; ring

private theorem mulAdd_lt (hbase : 0 < base) (factor carry : Nat) (digits : List Nat) :
    ∀ digit ∈ (mulAdd base factor carry digits).2, digit < base := by
  induction digits with
  | nil => simp [mulAdd]
  | cons digit digits ih => simpa [mulAdd, Nat.mod_lt _ hbase] using ih

private theorem value_carryDigits (hbase : 1 < base) {fuel carry : Nat} (h : carry ≤ fuel)
    (digits : List Nat) :
    value base (carryDigits base fuel carry digits) =
      carry * base ^ digits.length + value base digits := by
  induction fuel generalizing carry digits with
  | zero => simp [carryDigits, Nat.le_zero.mp h]
  | succ fuel ih =>
    rw [carryDigits]
    split
    · next hzero => simp [hzero]
    · next hcarry =>
      have hless : carry / base ≤ fuel :=
        Nat.le_of_lt_succ (Nat.lt_of_lt_of_le (Nat.div_lt_self (Nat.pos_of_ne_zero hcarry) hbase) h)
      rw [ih hless, value_cons, List.length_cons]
      calc carry / base * base ^ (digits.length + 1) +
            (carry % base * base ^ digits.length + value base digits)
          = (base * (carry / base) + carry % base) * base ^ digits.length + value base digits := by
            ring
        _ = carry * base ^ digits.length + value base digits := by rw [Nat.div_add_mod]

private theorem carryDigits_lt (hbase : 0 < base) {digits : List Nat}
    (h : ∀ digit ∈ digits, digit < base) (fuel carry : Nat) :
    ∀ digit ∈ carryDigits base fuel carry digits, digit < base := by
  induction fuel generalizing carry digits with
  | zero => exact h
  | succ fuel ih =>
    rw [carryDigits]
    split
    · exact h
    · apply ih
      intro digit hdigit
      rcases List.mem_cons.mp hdigit with rfl | hmem
      · exact Nat.mod_lt _ hbase
      · exact h digit hmem

theorem value_push (hbase : 1 < base) (factor : Nat) (digits : List Nat) (digit : Nat) :
    value base (push base factor digits digit) = value base digits * factor + digit := by
  rw [push, prepend, value_carryDigits hbase (Nat.le_refl _), length_mulAdd]
  exact value_mulAdd base factor digit digits

theorem push_lt (hbase : 0 < base) (factor : Nat) (digits : List Nat) (digit : Nat) :
    ∀ d ∈ push base factor digits digit, d < base :=
  carryDigits_lt hbase (mulAdd_lt hbase factor digit digits) _ _

theorem head_carryDigits (hbase : 1 < base) {fuel carry : Nat} (h : carry ≤ fuel)
    (hcarry : carry ≠ 0) (digits : List Nat) :
    (carryDigits base fuel carry digits).head? ≠ some 0 := by
  induction fuel generalizing carry digits with
  | zero => exact absurd (Nat.le_zero.mp h) hcarry
  | succ fuel ih =>
    rw [carryDigits, if_neg hcarry]
    by_cases hlast : carry / base = 0
    · have hmod : carry % base = carry := Nat.mod_eq_of_lt ((Nat.div_eq_zero_iff_lt (by omega)).mp hlast)
      rw [hlast, hmod]
      cases fuel <;> simpa [carryDigits] using hcarry
    · have hless : carry / base ≤ fuel :=
        Nat.le_of_lt_succ (Nat.lt_of_lt_of_le (Nat.div_lt_self (Nat.pos_of_ne_zero hcarry) hbase) h)
      exact ih hless hlast _

theorem isNumeral_push (hbase : 1 < base) (hfactor : 0 < factor) {digits : List Nat}
    (h : IsNumeral base digits) (digit : Nat) : IsNumeral base (push base factor digits digit) where
  lt := push_lt (by omega) factor digits digit
  head := by
    rw [push, prepend]
    by_cases hcarry : (mulAdd base factor digit digits).1 = 0
    · rw [hcarry]
      cases digits with
      | nil => simp [mulAdd, carryDigits]
      | cons first rest =>
        have hfirst : first ≠ 0 := by
          intro hzero
          exact h.head (by rw [hzero]; rfl)
        have hproduct : 0 < first * factor := Nat.mul_pos (Nat.pos_of_ne_zero hfirst) hfactor
        simp only [mulAdd] at hcarry ⊢
        have hmod := Nat.mod_eq_of_lt ((Nat.div_eq_zero_iff_lt (by omega)).mp hcarry)
        simp only [carryDigits, List.head?_cons, hmod]
        intro hzero
        have := Option.some.inj hzero
        omega
    · exact head_carryDigits hbase (Nat.le_refl _) hcarry _

end Push

theorem value_pushAll (hbase : 1 < base) (factor : Nat) (digits symbols : List Nat) :
    value base (pushAll base factor digits symbols) =
      value base digits * factor ^ symbols.length + value factor symbols := by
  induction symbols generalizing digits with
  | nil => simp [pushAll]
  | cons symbol symbols ih =>
    rw [pushAll, List.foldl_cons, ← pushAll, ih, value_push hbase, value_cons, List.length_cons]
    ring

theorem pushAll_lt (hbase : 0 < base) (factor : Nat) {digits : List Nat}
    (h : ∀ digit ∈ digits, digit < base) (symbols : List Nat) :
    ∀ digit ∈ pushAll base factor digits symbols, digit < base := by
  induction symbols generalizing digits with
  | nil => exact h
  | cons symbol symbols ih => exact ih (push_lt hbase factor digits symbol)

private theorem isNumeral_pushAll (hbase : 1 < base) (hfactor : 0 < factor) {digits : List Nat}
    (h : IsNumeral base digits) (symbols : List Nat) :
    IsNumeral base (pushAll base factor digits symbols) := by
  induction symbols generalizing digits with
  | nil => exact h
  | cons symbol symbols ih => exact ih (isNumeral_push hbase hfactor h symbol)

/-- Digits of one base, pushed one by one on the empty numeral, give the number in the other. -/
theorem pushAll_nil (hbase : 1 < base) (hfactor : 0 < factor) (symbols : List Nat) :
    pushAll base factor [] symbols = ofNat base (value factor symbols) := by
  have hempty : IsNumeral base [] := ⟨nofun, nofun⟩
  have hnumeral := isNumeral_pushAll hbase hfactor hempty symbols
  rw [← ofNat_value hbase hnumeral, value_pushAll hbase]
  simp

section LeadingZeros

private theorem value_dropWhile_zero (base : Nat) (digits : List Nat) :
    value base (digits.dropWhile (· = 0)) = value base digits := by
  induction digits with
  | nil => rfl
  | cons digit digits ih => by_cases h : digit = 0 <;> simp [h, ih]

private theorem isNumeral_dropWhile_zero {digits : List Nat} (h : ∀ digit ∈ digits, digit < base) :
    IsNumeral base (digits.dropWhile (· = 0)) where
  lt digit hdigit := h digit ((List.dropWhile_sublist _).mem hdigit)
  head := by
    have hhead := List.head?_dropWhile_not (· = 0) digits
    intro hzero
    rw [hzero] at hhead
    simp at hhead

theorem dropWhile_zero (hbase : 1 < base) {digits : List Nat} (h : ∀ digit ∈ digits, digit < base) :
    digits.dropWhile (· = 0) = ofNat base (value base digits) := by
  rw [← value_dropWhile_zero, ofNat_value hbase (isNumeral_dropWhile_zero h)]

/-- A numeral in another base, each zero in front of it kept as one zero. -/
def rebase (source target : Nat) (digits : List Nat) : List Nat :=
  digits.takeWhile (· = 0) ++ ofNat target (value source digits)

theorem rebase_lt {target : Nat} (htarget : 1 < target) (source : Nat) (digits : List Nat) :
    ∀ digit ∈ rebase source target digits, digit < target := by
  intro digit hdigit
  rcases List.mem_append.mp hdigit with hzero | hnumeral
  · have := List.mem_takeWhile_imp hzero
    simp at this
    omega
  · exact (isNumeral_ofNat htarget _).lt digit hnumeral

private theorem takeWhile_zero_of_head {digits : List Nat} (h : digits.head? ≠ some 0) :
    digits.takeWhile (· = 0) = [] := by
  cases digits with
  | nil => rfl
  | cons first rest =>
    have hfirst : first ≠ 0 := by simpa using h
    simp [hfirst]

theorem takeWhile_zero_append {numeral : List Nat} (h : numeral.head? ≠ some 0)
    (digits : List Nat) :
    (digits.takeWhile (· = 0) ++ numeral).takeWhile (· = 0) = digits.takeWhile (· = 0) := by
  have hnumeral := takeWhile_zero_of_head h
  induction digits with
  | nil => exact hnumeral
  | cons digit digits ih =>
    by_cases hdigit : digit = 0
    · simpa [hdigit] using ih
    · simpa [hdigit] using hnumeral

private theorem value_takeWhile_zero_append (base : Nat) (digits numeral : List Nat) :
    value base (digits.takeWhile (· = 0) ++ numeral) = value base numeral := by
  induction digits with
  | nil => rfl
  | cons digit digits ih => by_cases h : digit = 0 <;> simp [h, ih]

/-- Changing the base and changing it back gives the same digits, leading zeros included. -/
theorem rebase_rebase {source target : Nat} (hsource : 1 < source) (htarget : 1 < target)
    {digits : List Nat} (h : ∀ digit ∈ digits, digit < source) :
    rebase target source (rebase source target digits) = digits := by
  have hhead := (isNumeral_ofNat htarget (value source digits)).head
  have hzeros : (rebase source target digits).takeWhile (· = 0) = digits.takeWhile (· = 0) :=
    takeWhile_zero_append hhead digits
  have hvalue : value target (rebase source target digits) = value source digits := by
    rw [rebase, value_takeWhile_zero_append, value_ofNat]
  rw [rebase, hzeros, hvalue, ← dropWhile_zero hsource h, List.takeWhile_append_dropWhile]

end LeadingZeros

end Paymaster.Positional
