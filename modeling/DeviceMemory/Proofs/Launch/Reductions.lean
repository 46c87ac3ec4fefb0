-- SUMMARY: Reductions of integers are exact, whatever the chunks are and in whatever order and bracketing their results are combined.
import DeviceMemory.Launch.Reduce
import Mathlib.Data.BitVec

/-!
# Exact reductions

A launch combines the results of its chunks from left to right. A device may combine
them in any other order and bracketing, and start from the identity as often as it
likes: it runs some `Combination` whose leaves are those results. The operations on
integers are those of a commutative monoid (`Reduction.lawful_of_integer`), so every
combination comes to the fold of its leaves (`Combination.eval_eq_fold`), and the
fold of the results of chunks is the fold of all values (`Lawful.fold_map_fold`).
What that is in the integers says `Reduction.exact`: no chunk occurs in it.
-/

namespace DeviceMemory

variable {t : ScalarType} {r : Reduction}

/-! ## Combinations -/

/-- One way to combine results: any of them, in any order and bracketing, with identities
    anywhere. -/
inductive Combination (t : ScalarType) where
  | identity
  | result (a : Scalar t)
  | join (left right : Combination t)

namespace Combination

def eval (r : Reduction) : Combination t → Scalar t
  | identity => r.identity t
  | result a => a
  | join left right => r.combine (left.eval r) (right.eval r)

/-- The results that are combined. -/
def leaves : Combination t → List (Scalar t)
  | identity => []
  | result a => [a]
  | join left right => left.leaves ++ right.leaves

end Combination

namespace Reduction

/-! ## Laws -/

/-- The operation is that of a commutative monoid. -/
structure Lawful (r : Reduction) (t : ScalarType) : Prop where
  assoc : ∀ a b c : Scalar t, r.combine (r.combine a b) c = r.combine a (r.combine b c)
  comm : ∀ a b : Scalar t, r.combine a b = r.combine b a
  combine_identity : ∀ a : Scalar t, r.combine a (r.identity t) = a

namespace Lawful

variable {values : List (Scalar t)}

/-- What a fold starts from can be combined with its result instead. -/
theorem foldl_combine (h : r.Lawful t) (a : Scalar t) (values : List (Scalar t)) :
    values.foldl r.combine a = r.combine a (r.fold values) := by
  have : Std.Associative (r.combine : Scalar t → Scalar t → Scalar t) := ⟨h.assoc⟩
  have hassoc : values.foldl r.combine (r.combine a (r.identity t)) =
      r.combine a (values.foldl r.combine (r.identity t)) := List.foldl_assoc
  rwa [h.combine_identity] at hassoc

theorem fold_append (h : r.Lawful t) (xs ys : List (Scalar t)) :
    r.fold (xs ++ ys) = r.combine (r.fold xs) (r.fold ys) := by
  rw [← h.foldl_combine, fold, List.foldl_append, fold]

theorem fold_singleton (h : r.Lawful t) (a : Scalar t) : r.fold [a] = a :=
  (h.comm _ _).trans (h.combine_identity a)

theorem fold_cons (h : r.Lawful t) (a : Scalar t) (values : List (Scalar t)) :
    r.fold (a :: values) = r.combine a (r.fold values) := by
  rw [← List.singleton_append, h.fold_append, h.fold_singleton]

/-- The order does not matter. -/
theorem fold_perm (h : r.Lawful t) {xs ys : List (Scalar t)} (hperm : xs.Perm ys) :
    r.fold xs = r.fold ys := by
  have : RightCommutative (r.combine : Scalar t → Scalar t → Scalar t) :=
    ⟨fun a b c => by rw [h.assoc, h.comm b, ← h.assoc]⟩
  exact hperm.foldl_eq _

/-- Folding what chunks came to folds everything in them. -/
theorem fold_map_fold (h : r.Lawful t) (xss : List (List (Scalar t))) :
    r.fold (xss.map r.fold) = r.fold xss.flatten := by
  induction xss with
  | nil => rfl
  | cons xs xss ih => rw [List.map_cons, h.fold_cons, ih, List.flatten_cons, h.fold_append]

theorem fold_map_fold_chunks (h : r.Lawful t) {width : Nat} (hwidth : 1 ≤ width)
    (values : List (Scalar t)) : r.fold ((chunks width values).map r.fold) = r.fold values := by
  rw [h.fold_map_fold, chunks_flatten hwidth]

/-- Every combination comes to the fold of its leaves, -/
theorem eval_eq_fold (h : r.Lawful t) (combination : Combination t) :
    combination.eval r = r.fold combination.leaves := by
  induction combination with
  | identity => rfl
  | result a => exact (h.fold_singleton a).symm
  | join left right ihleft ihright =>
    rw [Combination.eval, Combination.leaves, h.fold_append, ihleft, ihright]

/-- and so every combination of what chunks came to is the fold of all values. -/
theorem eval_chunks (h : r.Lawful t) {width : Nat} (hwidth : 1 ≤ width)
    {combination : Combination t}
    (hleaves : combination.leaves.Perm ((chunks width values).map r.fold)) :
    combination.eval r = r.fold values := by
  rw [h.eval_eq_fold, h.fold_perm hleaves, h.fold_map_fold_chunks hwidth]

end Lawful

end Reduction

/-! ## Integers -/

namespace Scalar

theorem toInt_lowest (ht : t = .int32 ∨ t = .int64) : (lowest t).toInt = -2 ^ (t.bits - 1) := by
  rcases ht with rfl | rfl <;> rfl

theorem toInt_maximum (ht : t = .int32 ∨ t = .int64) (a b : Scalar t) :
    (maximum a b).toInt = max a.toInt b.toInt := by
  have hmaximum : maximum a b = if a.slt b then b else a := by
    rcases ht with rfl | rfl <;> rfl
  rw [hmaximum]
  split
  next hlt => exact (max_eq_right (BitVec.slt_iff_toInt_lt.mp hlt).le).symm
  next hle => exact (max_eq_left (not_lt.mp (mt BitVec.slt_iff_toInt_lt.mpr hle))).symm

theorem toInt_sum {w : Nat} (values : List (BitVec w)) :
    values.sum.toInt = ((values.map BitVec.toInt).sum).bmod (2 ^ w) := by
  induction values with
  | nil => simp
  | cons a values ih =>
    rw [List.sum_cons, BitVec.toInt_add, ih, Int.add_bmod_bmod, List.map_cons, List.sum_cons]

end Scalar

namespace Reduction

/-- The operations on integers are lawful: wrapping addition is that of a ring, and signed
    maxima are those of the integers. -/
theorem lawful_of_integer (ht : t = .int32 ∨ t = .int64) (r : Reduction) : r.Lawful t := by
  cases r with
  | sum =>
    refine ⟨fun a b c => ?_, fun a b => ?_, fun a => ?_⟩
    · simp only [combine, Scalar.add_eq_of_integer ht, add_assoc]
    · simp only [combine, Scalar.add_eq_of_integer ht, add_comm]
    · simp only [combine, identity, Scalar.add_eq_of_integer ht, Scalar.zero, BitVec.add_zero]
  | maximum =>
    refine ⟨fun a b c => ?_, fun a b => ?_, fun a => ?_⟩ <;> apply BitVec.eq_of_toInt_eq
    · simp only [combine, Scalar.toInt_maximum ht, max_assoc]
    · simp only [combine, Scalar.toInt_maximum ht, max_comm]
    · rw [combine, identity, Scalar.toInt_maximum ht, Scalar.toInt_lowest ht,
        max_eq_left a.le_toInt]

/-- The sum of integers is that of the ring. -/
theorem fold_sum_of_integer (ht : t = .int32 ∨ t = .int64) (values : List (Scalar t)) :
    Reduction.sum.fold values = values.sum := by
  rw [List.sum_eq_foldl]
  exact List.foldl_ext _ _ _ fun a b _ => Scalar.add_eq_of_integer ht a b

/-- It is the same in chunks. -/
theorem fold_chunks_of_integer (ht : t = .int32 ∨ t = .int64) {width : Nat} (hwidth : 1 ≤ width)
    (values : List (Scalar t)) :
    Reduction.sum.fold ((chunks width values).map Reduction.sum.fold) = values.sum := by
  rw [(lawful_of_integer ht .sum).fold_map_fold_chunks hwidth, fold_sum_of_integer ht]

/-- The fold of maxima is the largest integer in the list, or the least there is if the list is
    empty. -/
theorem toInt_fold_maximum (ht : t = .int32 ∨ t = .int64) (values : List (Scalar t)) :
    (Reduction.maximum.fold values).toInt =
      (values.map BitVec.toInt).max?.getD (-2 ^ (t.bits - 1)) := by
  induction values with
  | nil => exact Scalar.toInt_lowest ht
  | cons a values ih =>
    rw [(lawful_of_integer ht .maximum).fold_cons, combine, Scalar.toInt_maximum ht, ih,
      List.map_cons, List.max?_cons, Option.getD_some]
    cases (values.map BitVec.toInt).max? with
    | none => exact max_eq_left a.le_toInt
    | some largest => rfl

/-- What a reduction of integers means: the sum, in two's complement of the width, or the largest
    one, or the least there is if there are no values. -/
def exact (r : Reduction) (values : List (Scalar t)) : Int :=
  match r with
  | .sum => ((values.map BitVec.toInt).sum).bmod (2 ^ t.bits)
  | .maximum => (values.map BitVec.toInt).max?.getD (-2 ^ (t.bits - 1))

theorem toInt_fold_of_integer (ht : t = .int32 ∨ t = .int64) (r : Reduction)
    (values : List (Scalar t)) : (r.fold values).toInt = r.exact values := by
  cases r with
  | sum => rw [fold_sum_of_integer ht, Scalar.toInt_sum, exact]
  | maximum => exact toInt_fold_maximum ht values

theorem launch?_of_integer (ht : t = .int32 ∨ t = .int64) {g : Grid}
    (hthreads : 1 ≤ g.threadsPerBlock) (r : Reduction) (values : List (Scalar t)) :
    r.launch? g values = some (r.fold values) := by
  rw [launch?, if_neg (Nat.one_le_iff_ne_zero.mp hthreads),
    (lawful_of_integer ht r).fold_map_fold_chunks hthreads]

end Reduction

end DeviceMemory
