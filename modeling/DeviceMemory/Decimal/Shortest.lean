-- SUMMARY: The shortest decimal number that reads back as a given binary number.
import DeviceMemory.Word

/-!
# Shortest decimals

A positive double is `m * 2 ^ q`, and every real number in the interval around
it reads back as it. `Decimal.shortest` takes the coarsest decimal grid that has
a point in the interval and there the point nearest to the double; of two
equally near points it takes the larger. All arithmetic is exact.
-/

namespace DeviceMemory

/-- A decimal number `digits * 10 ^ exponent`. -/
structure Decimal where
  /-- The digits, as a number. -/
  digits : Nat
  /-- The power of ten they count. -/
  exponent : Int
  deriving DecidableEq

namespace Decimal

/-- A positive rational number over a common denominator, between the bounds of
    the interval that reads back as it. -/
structure Interval where
  /-- Numerator of the lower bound. -/
  lower : Nat
  /-- Numerator of the number. -/
  value : Nat
  /-- Numerator of the upper bound. -/
  upper : Nat
  /-- The common denominator. -/
  denominator : Nat
  /-- Whether the bounds read back as the number too. -/
  closed : Bool

/-- The interval of `m * 2 ^ q`. The bounds are halfway to the neighbours, and
    the neighbour below is nearer by half at the bottom of a binade (`narrow`). -/
def Interval.ofBinary (m : Nat) (q : Int) (narrow : Bool) : Interval where
  lower := (4 * m - if narrow then 1 else 2) * Nat.pow 2 q.toNat
  value := 4 * m * Nat.pow 2 q.toNat
  upper := (4 * m + 2) * Nat.pow 2 q.toNat
  denominator := 4 * Nat.pow 2 (-q).toNat
  closed := m % 2 = 0

/-- Whether a rational number lies in the interval. -/
def Interval.contains (i : Interval) (numerator denominator : Nat) : Bool :=
  let low := i.lower * denominator
  let high := i.upper * denominator
  let point := numerator * i.denominator
  if i.closed then low ≤ point && point ≤ high else low < point && point < high

/-- The exponent `e` with `10 ^ e ≤ x < 10 ^ (e + 1)`, for a positive number `x`. -/
def Interval.magnitude (i : Interval) : Int :=
  if i.denominator ≤ i.value then
    (Nat.toDigits 10 (i.value / i.denominator)).length - 1
  else
    let below := Word.ceilDiv i.denominator i.value - 1
    Int.negOfNat (Nat.toDigits 10 below).length

/-- The point of the grid of step `10 ^ exponent` that lies in the interval and
    is nearest to its number, if the grid has one there. -/
def Interval.onGrid? (i : Interval) (exponent : Int) : Option Decimal :=
  let step := Nat.pow 10 exponent.toNat
  let parts := Nat.pow 10 (-exponent).toNat
  let scaled := i.value * parts
  let unit := i.denominator * step
  let below := scaled / unit
  let rest := scaled % unit
  let point (digits : Nat) : Option Decimal :=
    if i.contains (digits * step) parts then some ⟨digits, exponent⟩ else none
  if 2 * rest < unit then point below <|> point (below + 1)
  else point (below + 1) <|> point below

/-- The first of the grids, from `digits` digits on, that has a point in the
    interval, tried `count` times. -/
def Interval.search (i : Interval) (magnitude : Int) : (count digits : Nat) → Option Decimal
  | 0, _ => none
  | count + 1, digits =>
    i.onGrid? (magnitude - (digits : Int) + 1) <|> i.search magnitude count (digits + 1)

/-- The shortest decimal that reads back as `m * 2 ^ q`. Seventeen digits always
    suffice for a double. -/
def shortest (m : Nat) (q : Int) (narrow : Bool) : Decimal :=
  let interval := Interval.ofBinary m q narrow
  (interval.search interval.magnitude 17 1).getD ⟨0, 0⟩

/-! ## Positional notation -/

/-- The decimal in positional notation: no exponent, no fraction of zeros and no
    zeros at the end of a fraction. -/
def positional (d : Decimal) : String :=
  if 0 ≤ d.exponent then Nat.repr (d.digits * Nat.pow 10 d.exponent.toNat)
  else
    let places := (-d.exponent).toNat
    let whole := Nat.repr (d.digits / Nat.pow 10 places)
    let fraction := Nat.toDigits 10 (d.digits % Nat.pow 10 places)
    let padded := List.replicate (places - fraction.length) '0' ++ fraction
    let kept := (padded.reverse.dropWhile (· == '0')).reverse
    if kept.isEmpty then whole else whole ++ "." ++ String.ofList kept

end Decimal

end DeviceMemory
