/-!
# Numerals in any base

A numeral is a list of digits, most significant first. Appending a digit of one
base to a numeral of another is a multiplication with carry, done digit by
digit from the right; what leaves at the front becomes new digits.
-/
namespace Paymaster.Positional

def value (base : Nat) (digits : List Nat) : Nat :=
  digits.foldl (fun n d => n * base + d) 0

/-- Multiplies by `factor` and adds `carry`; what leaves at the front comes first. -/
def mulAdd (base factor carry : Nat) : List Nat → Nat × List Nat
  | [] => (carry, [])
  | d :: ds =>
    let tail := mulAdd base factor carry ds
    let n := d * factor + tail.1
    (n / base, n % base :: tail.2)

def carryDigits (base : Nat) : Nat → Nat → List Nat → List Nat
  | 0, _, digits => digits
  | fuel + 1, carry, digits =>
    if carry = 0 then digits else carryDigits base fuel (carry / base) (carry % base :: digits)

/-- Puts the digits of `carry` in front; a zero has none. -/
def prepend (base carry : Nat) (digits : List Nat) : List Nat :=
  carryDigits base carry carry digits

/-- Appends one digit of base `factor` to a numeral of base `base`. -/
def push (base factor : Nat) (digits : List Nat) (digit : Nat) : List Nat :=
  let shifted := mulAdd base factor digit digits
  prepend base shifted.1 shifted.2

def pushAll (base factor : Nat) (digits symbols : List Nat) : List Nat :=
  symbols.foldl (push base factor) digits

end Paymaster.Positional
