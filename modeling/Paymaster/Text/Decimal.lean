/-!
# Decimal numerals

Numerals in base ten, with leading zeros up to a given width. A sign counts
towards the width and stands in front of the zeros.
-/
namespace Paymaster.Text

def numeral (n : Nat) : List Char :=
  Nat.toDigits 10 n

def padded (width n : Nat) : String :=
  String.ofList (List.leftpad width '0' (numeral n))

/-- A signed numeral of at least `width` characters. -/
def paddedInt (width : Nat) (i : Int) : String :=
  if i < 0 then "-" ++ padded (width - 1) i.natAbs else padded width i.natAbs

end Paymaster.Text
