-- SUMMARY: The text of a double.
import DeviceMemory.Decimal.Shortest
import DeviceMemory.Scalar.Arithmetic

/-!
# Doubles as text

A double is written as the shortest decimal that reads back as it, in positional
notation. A whole number has no point, zero keeps its sign, and the patterns
that are no finite number have names.
-/

namespace DeviceMemory

/-- The text of a double. -/
def Scalar.text (b : Scalar .float64) : String :=
  let fraction : Nat := b.toNat % Nat.pow 2 52
  let exponent : Nat := b.toNat / Nat.pow 2 52 % Nat.pow 2 11
  if FloatFormat.double.isNaN b then "NaN"
  else
    let magnitude :=
      if exponent = 2047 then "inf"
      else if exponent = 0 ∧ fraction = 0 then "0"
      else if exponent = 0 then (Decimal.shortest fraction (-1074) false).positional
      else
        let narrow := fraction = 0 ∧ 1 < exponent
        (Decimal.shortest (Nat.pow 2 52 + fraction) ((exponent : Int) - 1075) narrow).positional
    if b.msb then "-" ++ magnitude else magnitude

end DeviceMemory
