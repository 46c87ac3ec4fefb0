-- SUMMARY: Binary floating point formats as bit patterns: which patterns are not numbers, their order, and how operations treat them.

/-!
# Floating point bit patterns

A floating point scalar is its bit pattern, so that moving it never changes it.
A format says which bits hold the exponent and the fraction. Numbers compare by
sign and magnitude (`FloatFormat.rank`), in which both zeros are equal. An
operation is computed on numbers only: a pattern that is not a number passes
through it, and an operation on numbers without a result gives the format's
`undefined` pattern.
-/

namespace DeviceMemory

/-- Where a binary floating point format keeps its parts. -/
structure FloatFormat (w : Nat) where
  /-- The sign. -/
  sign : BitVec w
  /-- The bits of the exponent. -/
  exponent : BitVec w
  /-- The bits of the fraction. -/
  fraction : BitVec w
  /-- The bit of the fraction that marks a quiet pattern. -/
  quiet : BitVec w

namespace FloatFormat

variable {w : Nat}

/-- The 32-bit format. -/
def single : FloatFormat 32 :=
  ⟨0x80000000#32, 0x7f800000#32, 0x007fffff#32, 0x00400000#32⟩

/-- The 64-bit format. -/
def double : FloatFormat 64 :=
  ⟨0x8000000000000000#64, 0x7ff0000000000000#64, 0x000fffffffffffff#64, 0x0008000000000000#64⟩

/-! ## Patterns that are not numbers -/

/-- Whether the pattern is not a number: a full exponent over some fraction. -/
def isNaN (f : FloatFormat w) (b : BitVec w) : Bool :=
  b &&& f.exponent == f.exponent && b &&& f.fraction != 0

/-- The quiet pattern that text input denotes: positive, with no payload. -/
def plainNaN (f : FloatFormat w) : BitVec w :=
  f.exponent ||| f.quiet

/-- The result of an operation on numbers that has none. -/
def undefined (f : FloatFormat w) : BitVec w :=
  f.sign ||| f.exponent ||| f.quiet

/-- Minus infinity. -/
def lowest (f : FloatFormat w) : BitVec w :=
  f.sign ||| f.exponent

/-- A binary operation on numbers, extended to all patterns: the first operand
    that is not a number is the result, made quiet. -/
def lift (f : FloatFormat w) (op : BitVec w → BitVec w → BitVec w) (a b : BitVec w) : BitVec w :=
  if f.isNaN a then a ||| f.quiet
  else if f.isNaN b then b ||| f.quiet
  else
    let result := op a b
    if f.isNaN result then f.undefined else result

/-! ## Order -/

/-- Position of a number among the numbers of the format. Both zeros have
    position zero. -/
def rank (f : FloatFormat w) (b : BitVec w) : Int :=
  let magnitude : Int := (b &&& (f.exponent ||| f.fraction)).toNat
  if b &&& f.sign = 0 then magnitude else -magnitude

/-- The larger number. A pattern that is not a number gives way to the other
    operand, and of two equal numbers, which only zeros of either sign can be
    without being one pattern, the second is taken. -/
def maximum (f : FloatFormat w) (a b : BitVec w) : BitVec w :=
  if f.isNaN a then b
  else if f.isNaN b then a
  else if f.rank b < f.rank a then a else b

/-- The smaller number, with the same two rules. -/
def minimum (f : FloatFormat w) (a b : BitVec w) : BitVec w :=
  if f.isNaN a then b
  else if f.isNaN b then a
  else if f.rank a < f.rank b then a else b

end FloatFormat

end DeviceMemory
