-- SUMMARY: Summaries of arrays: shape, place and the statistics of the values.
import DeviceMemory.Array.Transfer
import DeviceMemory.Decimal.Double

/-!
# Summaries

The statistics of a list of scalars are taken in doubles, from the first scalar
on. A summary is also written to the journal as one line of text.
-/

namespace DeviceMemory

/-- Statistics of a list of scalars, in doubles. -/
structure Statistics where
  min : Scalar .float64
  max : Scalar .float64
  sum : Scalar .float64
  mean : Scalar .float64

namespace Statistics

/-- Take in one more scalar. -/
def extend {t : ScalarType} (acc : Scalar .float64 × Scalar .float64 × Scalar .float64)
    (value : Scalar t) : Scalar .float64 × Scalar .float64 × Scalar .float64 :=
  let v := value.toDouble
  let (least, greatest, sum) := acc
  (least.minimum v, greatest.maximum v, sum.add v)

/-- The statistics of the scalars, if there are any. -/
def of? {t : ScalarType} : List (Scalar t) → Option Statistics
  | [] => none
  | first :: rest =>
    let v := first.toDouble
    let (least, greatest, sum) := rest.foldl Statistics.extend (v, v, v)
    some ⟨least, greatest, sum, sum.divide (Scalar.ofCount (rest.length + 1))⟩

def text (s : Statistics) : String :=
  " min=" ++ s.min.text ++ " max=" ++ s.max.text ++ " sum=" ++ s.sum.text ++
    " mean=" ++ s.mean.text

end Statistics

/-- What an array holds and where. -/
structure Summary where
  dtype : ScalarType
  element : ElementShape
  len : Nat
  byteSize : Nat
  device : String
  ownership : Ownership
  statistics : Option Statistics

namespace Summary

/-- The summary as one line. -/
def text (s : Summary) : String :=
  s.dtype.name ++ "[" ++ s.len.repr ++ "; " ++ s.element.s1.repr ++ "x" ++ s.element.s2.repr ++
    "x" ++ s.element.s3.repr ++ "] " ++ s.byteSize.repr ++ " bytes on " ++ s.device ++
    " (" ++ s.ownership.text ++ ")" ++ (s.statistics.map Statistics.text).getD " empty"

end Summary

/-- Copy the array to the host and summarize it. The summary goes to the journal. -/
def BlockArray.summarize {t : ScalarType} {e : ElementShape} (a : BlockArray t e) :
    Action ArrayError Summary := do
  let values ← a.toHost
  let byteSize ← Action.checked a.byteSize?
  let b ← a.memory
  let device ← Action.read b.device
  let summary : Summary :=
    ⟨t, e, a.len, byteSize, device, a.ownership, Statistics.of? values⟩
  Action.update (Store.record (.arraySummary summary.text))
  return summary

end DeviceMemory
