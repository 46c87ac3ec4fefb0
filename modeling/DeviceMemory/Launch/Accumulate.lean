-- SUMMARY: The accumulating launches, scatter and gather, on lists of scalars.
import DeviceMemory.Launch.Grid
import DeviceMemory.Scalar.Arithmetic

/-!
# Scatter and gather

A work item adds one block of scalars into another. In a scatter the index of an
item selects its destination block, so items may meet there; in a gather it
selects the source block, and each item has a destination of its own. An index
that addresses no whole block stops the launch. Blocks of the grid run in order
and so do the items in a block: what items before the stop did stays done.
-/

namespace DeviceMemory.Launch

variable {t : ScalarType}

/-- One addition into the destination. -/
structure Update (t : ScalarType) where
  position : Nat
  value : Scalar t

/-- What a work item adds where. -/
abbrev WorkItem (t : ScalarType) := List (Update t)

/-- The destination after a launch, and whether every item ran. -/
structure Progress (t : ScalarType) where
  values : List (Scalar t)
  finished : Bool
  deriving DecidableEq

/-! ## Running work items

Items run on an array, where an addition takes one write. The lemmas say what
that does to the list that the array holds. -/

def Update.apply (values : Array (Scalar t)) (u : Update t) : Array (Scalar t) :=
  values.modify u.position (Scalar.add · u.value)

/-- All additions of an item, in order. -/
def WorkItem.apply (values : Array (Scalar t)) (item : WorkItem t) : Array (Scalar t) :=
  item.foldl Update.apply values

/-- Run items up to the first one that addresses no block. -/
def run : List (Option (WorkItem t)) → Array (Scalar t) → Progress t
  | [], values => ⟨values.toList, true⟩
  | none :: _, values => ⟨values.toList, false⟩
  | some item :: items, values => run items (WorkItem.apply values item)

@[simp] theorem toList_applyUpdate (values : Array (Scalar t)) (u : Update t) :
    (u.apply values).toList = values.toList.modify u.position (Scalar.add · u.value) := by
  simp [Update.apply]

@[simp] theorem size_applyItem (values : Array (Scalar t)) (item : WorkItem t) :
    (WorkItem.apply values item).size = values.size := by
  induction item generalizing values with
  | nil => rfl
  | cons u item ih => simpa [WorkItem.apply, Update.apply] using ih (u.apply values)

/-- A launch keeps the length of its destination. -/
@[simp] theorem length_run (items : List (Option (WorkItem t))) (values : Array (Scalar t)) :
    (run items values).values.length = values.size := by
  induction items generalizing values with
  | nil => simp [run]
  | cons item items ih => cases item <;> simp [run, ih]

/-! ## Work items of a launch -/

/-- Where the block of `block` entries that a signed index addresses begins among
    `length` entries, if it lies inside. -/
def blockStart? (index : Scalar .int32) (block length : Nat) : Option Nat :=
  let i := index.toInt
  if 0 ≤ i ∧ (i.toNat + 1) * block ≤ length then some (i.toNat * block) else none

/-- A block that an index addresses lies inside. -/
theorem blockStart?_le {index : Scalar .int32} {block length start : Nat}
    (h : blockStart? index block length = some start) : start + block ≤ length := by
  simp only [blockStart?] at h
  split at h
  next hinside =>
    cases h
    simpa [Nat.succ_mul] using hinside.2
  next => cases h

/-- Pair destination positions with the values to add there. -/
def updates (positions : List Nat) (values : List (Scalar t)) : WorkItem t :=
  List.zipWith Update.mk positions values

/-- The items of one block of a scatter. -/
def scatterLane (block length : Nat) (indices : List (Scalar .int32)) (source : List (Scalar t)) :
    List (Option (WorkItem t)) :=
  List.zipWith
    (fun index values =>
      (blockStart? index block length).map fun start => updates (List.range' start block) values)
    indices (wholeChunks block source)

/-- The items of one block of a gather. -/
def gatherLane (block : Nat) (source : Array (Scalar t)) (positions : List Nat)
    (indices : List (Scalar .int32)) : List (Option (WorkItem t)) :=
  List.zipWith
    (fun positions index =>
      (blockStart? index block source.size).map fun start =>
        updates positions (source.extract start (start + block)).toList)
    (wholeChunks block positions) indices

/-- The items of a scatter, block by block. -/
def scatterItems (threads span block length : Nat) (indices : List (Scalar .int32))
    (source : List (Scalar t)) : List (Option (WorkItem t)) :=
  (List.zipWith (scatterLane block length) (chunks threads indices) (chunks span source)).flatten

/-- The items of a gather, block by block. -/
def gatherItems (threads span block length : Nat) (indices : List (Scalar .int32))
    (source : Array (Scalar t)) : List (Option (WorkItem t)) :=
  (List.zipWith (gatherLane block source) (chunks span (List.range length))
    (chunks threads indices)).flatten

/-! ## Launches -/

/-- Add block `i` of the source into the block of the destination that index `i`
    addresses, for every `i`. Nothing runs on a grid that has no span. -/
def scatter (g : Grid) (block : Nat) (destination : List (Scalar t))
    (indices : List (Scalar .int32)) (source : List (Scalar t)) : Progress t :=
  match g.span? block with
  | none => ⟨destination, false⟩
  | some span =>
    run (scatterItems g.threadsPerBlock span block destination.length indices source)
      destination.toArray

/-- Add the block of the source that index `i` addresses into block `i` of the
    destination, for every `i`. -/
def gather (g : Grid) (block : Nat) (destination : List (Scalar t))
    (indices : List (Scalar .int32)) (source : List (Scalar t)) : Progress t :=
  match g.span? block with
  | none => ⟨destination, false⟩
  | some span =>
    run
      (gatherItems g.threadsPerBlock span block destination.length indices source.toArray)
      destination.toArray

end DeviceMemory.Launch
