-- SUMMARY: The four scalar types a device array can hold, with their names, widths and order.

/-!
# Scalar types

Signed integers and binary floating point numbers, of 32 and of 64 bits. A type
has a code; the types are listed, compared and read back by it.
-/

namespace DeviceMemory

/-- The type of the scalars in a buffer. -/
inductive ScalarType where
  | int32
  | int64
  | float32
  | float64
  deriving DecidableEq

namespace ScalarType

/-- Every scalar type, in the order of the codes. -/
def all : List ScalarType := [.int32, .int64, .float32, .float64]

/-- Width of a scalar in bytes. -/
def bytes : ScalarType → Nat
  | .int32 | .float32 => 4
  | .int64 | .float64 => 8

theorem bytes_pos (t : ScalarType) : 0 < t.bytes := by
  cases t <;> decide

/-- Width of a scalar in bits. -/
def bits : ScalarType → Nat
  | .int32 | .float32 => 32
  | .int64 | .float64 => 64

theorem bits_eq (t : ScalarType) : t.bits = 8 * t.bytes := by
  cases t <;> rfl

/-- The name shown in messages. -/
def name : ScalarType → String
  | .int32 => "Int32"
  | .int64 => "Int64"
  | .float32 => "Float32"
  | .float64 => "Float64"

/-- The type's spelling in the source of a device kernel. -/
def kernelName : ScalarType → String
  | .int32 => "int"
  | .int64 => "long long"
  | .float32 => "float"
  | .float64 => "double"

/-! ## Codes and their order -/

/-- The type's code. -/
def code : ScalarType → Nat
  | .int32 => 0
  | .int64 => 1
  | .float32 => 2
  | .float64 => 3

/-- The type with a given code. -/
def ofCode? (code : Nat) : Option ScalarType :=
  all[code]?

theorem ofCode?_eq_some_iff {code : Nat} {t : ScalarType} :
    ofCode? code = some t ↔ code = t.code := by
  match code with
  | 0 | 1 | 2 | 3 => cases t <;> decide
  | n + 4 => cases t <;> simp [ofCode?, all, ScalarType.code]

/-- Types compare by code. -/
instance : Ord ScalarType where
  compare a b := compare a.code b.code

end ScalarType

end DeviceMemory
