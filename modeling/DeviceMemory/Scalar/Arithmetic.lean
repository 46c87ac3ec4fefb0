-- SUMMARY: Scalars as bit patterns: zero, sums, maxima and widening to a double.
import DeviceMemory.Scalar.Kind
import DeviceMemory.Scalar.FloatFormat

/-!
# Scalar arithmetic

A scalar of type `t` is a bit pattern of `t`'s width. Integer sums wrap.
Floating point sums round to the nearest even number. `Scalar.lowest` is the
identity of `Scalar.maximum`: the least integer, or minus infinity.
-/

namespace DeviceMemory

/-- A scalar: a bit pattern as wide as its type. -/
abbrev Scalar (t : ScalarType) := BitVec t.bits

namespace Scalar

/-- A single precision sum of numbers. -/
private def addSingle (a b : BitVec 32) : BitVec 32 :=
  (Float32.ofBits (UInt32.ofBitVec a) + Float32.ofBits (UInt32.ofBitVec b)).toBits.toBitVec

/-- A double precision sum of numbers. -/
private def addDouble (a b : BitVec 64) : BitVec 64 :=
  (Float.ofBits (UInt64.ofBitVec a) + Float.ofBits (UInt64.ofBitVec b)).toBits.toBitVec

/-- A double precision quotient of numbers. -/
private def divideDouble (a b : BitVec 64) : BitVec 64 :=
  (Float.ofBits (UInt64.ofBitVec a) / Float.ofBits (UInt64.ofBitVec b)).toBits.toBitVec

/-- Zero, which every type writes as zero bits. -/
def zero (t : ScalarType) : Scalar t := 0#t.bits

/-- The sum. Integers wrap. -/
def add : {t : ScalarType} → Scalar t → Scalar t → Scalar t
  | .int32, a, b => a + b
  | .int64, a, b => a + b
  | .float32, a, b => FloatFormat.single.lift addSingle a b
  | .float64, a, b => FloatFormat.double.lift addDouble a b

theorem add_eq_of_integer {t : ScalarType} (ht : t = .int32 ∨ t = .int64) (a b : Scalar t) :
    add a b = a + b := by
  rcases ht with rfl | rfl <;> rfl

/-- The least scalar. -/
def lowest : (t : ScalarType) → Scalar t
  | .int32 => BitVec.intMin 32
  | .int64 => BitVec.intMin 64
  | .float32 => FloatFormat.single.lowest
  | .float64 => FloatFormat.double.lowest

/-- The larger scalar. Integers are signed. -/
def maximum : {t : ScalarType} → Scalar t → Scalar t → Scalar t
  | .int32, a, b => if a.slt b then b else a
  | .int64, a, b => if a.slt b then b else a
  | .float32, a, b => FloatFormat.single.maximum a b
  | .float64, a, b => FloatFormat.double.maximum a b

/-! ## Doubles -/

/-- The nearest double. -/
def toDouble : {t : ScalarType} → Scalar t → Scalar .float64
  | .int32, a => (Int32.ofBitVec a).toFloat.toBits.toBitVec
  | .int64, a => (Int64.ofBitVec a).toFloat.toBits.toBitVec
  | .float32, a => (Float32.ofBits (UInt32.ofBitVec a)).toFloat.toBits.toBitVec
  | .float64, a => a

/-- The double nearest to a count. -/
def ofCount (n : Nat) : Scalar .float64 :=
  (Float.ofNat n).toBits.toBitVec

/-- The smaller double. -/
def minimum (a b : Scalar .float64) : Scalar .float64 :=
  FloatFormat.double.minimum a b

/-- The quotient of two doubles. -/
def divide (a b : Scalar .float64) : Scalar .float64 :=
  FloatFormat.double.lift divideDouble a b

end Scalar

end DeviceMemory
