-- SUMMARY: The reducing launches, sum and maximum, on lists of scalars.
import DeviceMemory.Launch.Grid
import DeviceMemory.Scalar.Arithmetic

/-!
# Reductions

A reduction folds each block of the grid from the identity of its operation, and
then the results of the blocks in the same way.
-/

namespace DeviceMemory

/-- An operation with an identity, which a list of scalars is folded by. -/
inductive Reduction where
  | sum
  | maximum
  deriving DecidableEq

namespace Reduction

variable {t : ScalarType}

def identity (t : ScalarType) : Reduction → Scalar t
  | .sum => Scalar.zero t
  | .maximum => Scalar.lowest t

def combine : Reduction → Scalar t → Scalar t → Scalar t
  | .sum => Scalar.add
  | .maximum => Scalar.maximum

/-- Fold a list from the identity. -/
def fold (r : Reduction) (values : List (Scalar t)) : Scalar t :=
  values.foldl r.combine (r.identity t)

/-- The reduction of a list on a grid whose blocks have threads. -/
def launch? (r : Reduction) (g : Grid) (values : List (Scalar t)) : Option (Scalar t) :=
  if g.threadsPerBlock = 0 then none
  else some (r.fold ((chunks g.threadsPerBlock values).map r.fold))

end Reduction

end DeviceMemory
