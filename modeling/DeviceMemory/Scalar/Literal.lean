-- SUMMARY: Scalars written out: integers as numbers, floating point scalars as bit patterns.
import DeviceMemory.Scalar.Arithmetic

/-!
# Literals

A scalar is written as a literal that shows all that matters of it: an integer
as a number, a floating point number as its bits. All patterns that are no
number are written alike.
-/

namespace DeviceMemory

/-- A scalar as it is written. -/
inductive Literal where
  | integer (value : Int)
  | pattern (bytes bits : Nat)
  | nan
  deriving DecidableEq

namespace Scalar

/-- The literal of a floating point scalar. -/
private def floatLiteral {w : Nat} (f : FloatFormat w) (bytes : Nat) (b : BitVec w) : Literal :=
  if f.isNaN b then .nan else .pattern bytes b.toNat

/-- The literal of a scalar. -/
def literal : {t : ScalarType} → Scalar t → Literal
  | .int32, a => .integer a.toInt
  | .int64, a => .integer a.toInt
  | .float32, a => floatLiteral .single 4 a
  | .float64, a => floatLiteral .double 8 a

/-- The integer of a given width, if it is in range. -/
private def ofInteger? (w : Nat) : Literal → Option (BitVec w)
  | .integer value =>
    let b := BitVec.ofInt w value
    if b.toInt = value then some b else none
  | _ => none

/-- The pattern of a given format. -/
private def ofPattern? {w : Nat} (f : FloatFormat w) (bytes : Nat) : Literal → Option (BitVec w)
  | .pattern size bits => if size = bytes then some (BitVec.ofNat w bits) else none
  | .nan => some f.plainNaN
  | _ => none

/-- The scalar of a type that a literal writes, if it writes one. -/
def ofLiteral? : (t : ScalarType) → Literal → Option (Scalar t)
  | .int32, l => ofInteger? 32 l
  | .int64, l => ofInteger? 64 l
  | .float32, l => ofPattern? .single 4 l
  | .float64, l => ofPattern? .double 8 l

/-- Every scalar can be written, whatever its bits are. -/
theorem exists_literal {t : ScalarType} (v : Scalar t) : ∃ l, ofLiteral? t l = some v := by
  have hinteger {w : Nat} (v : BitVec w) : ofInteger? w (.integer v.toInt) = some v := by
    simp [ofInteger?]
  have hpattern {w : Nat} (f : FloatFormat w) (bytes : Nat) (v : BitVec w) :
      ofPattern? f bytes (.pattern bytes v.toNat) = some v := by
    simp [ofPattern?]
  cases t with
  | int32 => exact ⟨.integer v.toInt, hinteger v⟩
  | int64 => exact ⟨.integer v.toInt, hinteger v⟩
  | float32 => exact ⟨.pattern 4 v.toNat, hpattern .single 4 v⟩
  | float64 => exact ⟨.pattern 8 v.toNat, hpattern .double 8 v⟩

theorem exists_literals {t : ScalarType} (values : List (Scalar t)) :
    ∃ literals : List Literal, literals.mapM (ofLiteral? t) = some values := by
  induction values with
  | nil => exact ⟨[], rfl⟩
  | cons v values ih =>
    obtain ⟨l, hl⟩ := exists_literal v
    obtain ⟨literals, hliterals⟩ := ih
    refine ⟨l :: literals, ?_⟩
    rw [List.mapM_cons, hl, hliterals]
    rfl

end Scalar

end DeviceMemory
