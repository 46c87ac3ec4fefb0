-- SUMMARY: Scatter and gather do what one loop over the items and one over the scalars of an item does.
import DeviceMemory.Allocator.Base
import DeviceMemory.Launch.Accumulate
import DeviceMemory.Proofs.Launch.Partition
import Mathlib.Data.BitVec

/-!
# Sequential launches

The reference of a launch is a loop over the items, in the order of the indices,
and in each item a loop over the scalars of a block: `scatterLoop` and
`gatherLoop`. The loop adds as the scalars' type does, so integers wrap
(`Scalar.toInt_add_of_integer`). A launch whose indices all address a block does
what the loop does. One that meets an index that addresses none stops there, and
has then done what the loop does up to that item.
-/

namespace DeviceMemory

variable {t : ScalarType}

/-! ## The loops -/

/-- Integers are added as such and wrap to the width of their type. -/
theorem Scalar.toInt_add_of_integer (ht : t = .int32 ∨ t = .int64) (a b : Scalar t) :
    (Scalar.add a b).toInt = (a.toInt + b.toInt).bmod (2 ^ t.bits) := by
  rw [Scalar.add_eq_of_integer ht, BitVec.toInt_add]

namespace Launch

/-- Index `i`, as an integer. -/
def indexAt (indices : List (Scalar .int32)) (i : Nat) : Int :=
  (indices.getD i (Scalar.zero .int32)).toInt

/-- The index is that of a whole block of a list of `length` scalars. -/
def Addresses (index : Int) (block length : Nat) : Prop :=
  0 ≤ index ∧ (index + 1) * block ≤ length

instance (index : Int) (block length : Nat) : Decidable (Addresses index block length) :=
  inferInstanceAs (Decidable (_ ∧ _))

/-- Items of a scatter: an index and a whole block of the source for each. -/
def scatterCount (block : Nat) (indices : List (Scalar .int32)) (source : List (Scalar t)) : Nat :=
  min indices.length (source.length / block)

/-- Items of a gather: an index and a whole block of the destination for each. -/
def gatherCount (block : Nat) (destination : List (Scalar t)) (indices : List (Scalar .int32)) :
    Nat :=
  min indices.length (destination.length / block)

/-- Add the block of the source that begins at `origin` into the block of the
    destination that begins at `target`, scalar by scalar. -/
def addBlock (block target origin : Nat) (source destination : List (Scalar t)) :
    List (Scalar t) :=
  (List.range block).foldl
    (fun values k =>
      values.modify (target + k) (Scalar.add · (source.getD (origin + k) (Scalar.zero t))))
    destination

/-- Add block by block. -/
def addBlocks (block count : Nat) (target origin : Nat → Nat)
    (source destination : List (Scalar t)) : List (Scalar t) :=
  (List.range count).foldl (fun values i => addBlock block (target i) (origin i) source values)
    destination

/-- The first `count` items of a scatter, one after another. -/
def scatterLoop (block count : Nat) (destination : List (Scalar t))
    (indices : List (Scalar .int32)) (source : List (Scalar t)) : List (Scalar t) :=
  addBlocks block count (fun i => (indexAt indices i).toNat * block) (· * block) source destination

/-- The first `count` items of a gather, one after another. -/
def gatherLoop (block count : Nat) (destination : List (Scalar t))
    (indices : List (Scalar .int32)) (source : List (Scalar t)) : List (Scalar t) :=
  addBlocks block count (· * block) (fun i => (indexAt indices i).toNat * block) source destination

@[simp] theorem length_addBlock (block target origin : Nat) (source destination : List (Scalar t)) :
    (addBlock block target origin source destination).length = destination.length := by
  refine List.foldlRecOn (motive := fun values : List (Scalar t) =>
    values.length = destination.length) _ _ rfl ?_
  intro values hvalues k _
  rw [List.length_modify, hvalues]

@[simp] theorem length_addBlocks (block count : Nat) (target origin : Nat → Nat)
    (source destination : List (Scalar t)) :
    (addBlocks block count target origin source destination).length = destination.length := by
  refine List.foldlRecOn (motive := fun values : List (Scalar t) =>
    values.length = destination.length) _ _ rfl ?_
  intro values hvalues i _
  rw [length_addBlock, hvalues]

/-- Scalars outside a block stay as they are. -/
theorem getElem?_addBlock {block target origin q : Nat} (source destination : List (Scalar t))
    (hq : q < target ∨ target + block ≤ q) :
    (addBlock block target origin source destination)[q]? = destination[q]? := by
  refine List.foldlRecOn (motive := fun values => values[q]? = destination[q]?) _ _ rfl ?_
  intro values hvalues k hk
  have hlt : k < block := List.mem_range.mp hk
  have hne : target + k ≠ q := by omega
  simpa [List.getElem?_modify, hne] using hvalues

/-- Scalars outside all blocks stay as they are. -/
theorem getElem?_addBlocks {block count q : Nat} {target origin : Nat → Nat}
    (source destination : List (Scalar t))
    (hq : ∀ i < count, q < target i ∨ target i + block ≤ q) :
    (addBlocks block count target origin source destination)[q]? = destination[q]? := by
  refine List.foldlRecOn (motive := fun values => values[q]? = destination[q]?) _ _ rfl ?_
  intro values hvalues i hi
  rw [getElem?_addBlock source values (hq i (List.mem_range.mp hi)), hvalues]

/-! ## Items -/

/-- The item that adds one block of the source into one block of the destination. -/
def blockItem (block target origin : Nat) (source : List (Scalar t)) : WorkItem t :=
  (List.range block).map fun k => ⟨target + k, source.getD (origin + k) (Scalar.zero t)⟩

theorem toList_apply_blockItem (block target origin : Nat) (source : List (Scalar t))
    (values : Array (Scalar t)) :
    (WorkItem.apply values (blockItem block target origin source)).toList =
      addBlock block target origin source values.toList := by
  rw [WorkItem.apply, blockItem, List.foldl_map, addBlock]
  exact (List.foldl_hom Array.toList fun values k =>
    (toList_applyUpdate values ⟨target + k, _⟩).symm).symm

theorem updates_eq_blockItem {block origin : Nat} {source : List (Scalar t)} (target : Nat)
    (horigin : origin + block ≤ source.length) :
    updates (List.range' target block) ((source.drop origin).take block) =
      blockItem block target origin source := by
  apply List.ext_getElem
  · simp only [updates, blockItem, List.length_zipWith, List.length_range', List.length_take,
      List.length_drop, List.length_map, List.length_range]
    omega
  · intro k hk hk'
    have hlt : k < block := by simpa [blockItem] using hk'
    have hsource : origin + k < source.length := by omega
    simp [updates, blockItem, hsource]

theorem addresses_iff {index : Int} {block length : Nat} :
    Addresses index block length ↔ 0 ≤ index ∧ (index.toNat + 1) * block ≤ length := by
  refine and_congr_right fun hindex => ?_
  obtain ⟨i, rfl⟩ := Int.eq_ofNat_of_zero_le hindex
  rw [Int.toNat_natCast]
  norm_cast

theorem blockStart?_of_addresses {index : Scalar .int32} {block length : Nat}
    (h : Addresses index.toInt block length) :
    blockStart? index block length = some (index.toInt.toNat * block) :=
  if_pos (addresses_iff.mp h)

theorem blockStart?_of_not_addresses {index : Scalar .int32} {block length : Nat}
    (h : ¬ Addresses index.toInt block length) : blockStart? index block length = none :=
  if_neg fun hinside => h (addresses_iff.mpr hinside)

/-- Pairs with a list that is read off its positions. -/
theorem zipWith_map_range {α β γ : Type} (f : α → β → γ) (g : Nat → β) (d : α) (xs : List α)
    (count : Nat) :
    List.zipWith f xs ((List.range count).map g) =
      (List.range (min xs.length count)).map fun i => f (xs.getD i d) (g i) := by
  apply List.ext_getElem
  · simp
  · intro i hi hi'
    have hlt : i < xs.length := by
      simp at hi'
      omega
    simp [hlt]

/-- A whole block lies inside the list. -/
theorem mul_add_le_of_lt_div {i block length : Nat} (hi : i < length / block) :
    i * block + block ≤ length := by
  have hle : (i + 1) * block ≤ length / block * block := Nat.mul_le_mul_right block hi
  rw [Nat.succ_mul] at hle
  exact Nat.le_trans hle (Nat.div_mul_le_self length block)

/-- The items of a scatter, whatever the number of threads. -/
theorem scatterItems_eq {threads block : Nat} (length : Nat) (indices : List (Scalar .int32))
    (source : List (Scalar t)) (hthreads : 0 < threads) (hblock : 0 < block) :
    scatterItems threads (threads * block) block length indices source =
      (List.range (min indices.length (source.length / block))).map fun i =>
        (blockStart? (indices.getD i (Scalar.zero .int32)) block length).map fun start =>
          blockItem block start (i * block) source := by
  have hpairs : scatterItems threads (threads * block) block length indices source =
      scatterLane block length indices source :=
    flatten_zipWith_chunks _ hthreads hblock indices source
  rw [hpairs, scatterLane, wholeChunks, takeChunks_eq_map,
    zipWith_map_range _ _ (Scalar.zero .int32)]
  refine List.map_congr_left fun i hi => ?_
  have hlt : i < source.length / block :=
    Nat.lt_of_lt_of_le (List.mem_range.mp hi) (Nat.min_le_right ..)
  refine congrArg (Option.map · _) (funext fun start => ?_)
  exact updates_eq_blockItem start (mul_add_le_of_lt_div hlt)

theorem gatherLane_eq (block : Nat) (source : Array (Scalar t)) (positions : List Nat)
    (indices : List (Scalar .int32)) :
    gatherLane block source positions indices =
      List.zipWith
        (fun index positions =>
          (blockStart? index block source.size).map fun start =>
            updates positions (source.extract start (start + block)).toList)
        indices (wholeChunks block positions) :=
  List.zipWith_comm

theorem take_drop_range {i block length : Nat} (hi : i < length / block) :
    ((List.range length).drop (i * block)).take block = List.range' (i * block) block := by
  have hinside : i * block + block ≤ length := mul_add_le_of_lt_div hi
  apply List.ext_getElem
  · simp only [List.length_take, List.length_drop, List.length_range, List.length_range']
    omega
  · intro k _ _
    simp

/-- The items of a gather, whatever the number of threads. -/
theorem gatherItems_eq {threads block : Nat} (length : Nat) (indices : List (Scalar .int32))
    (source : List (Scalar t)) (hthreads : 0 < threads) (hblock : 0 < block) :
    gatherItems threads (threads * block) block length indices source.toArray =
      (List.range (min indices.length (length / block))).map fun i =>
        (blockStart? (indices.getD i (Scalar.zero .int32)) block source.length).map fun start =>
          blockItem block (i * block) start source := by
  have hpairs : gatherItems threads (threads * block) block length indices source.toArray =
      gatherLane block source.toArray (List.range length) indices := by
    rw [gatherItems, List.zipWith_comm]
    simp only [gatherLane_eq]
    exact flatten_zipWith_chunks _ hthreads hblock indices (List.range length)
  rw [hpairs, gatherLane_eq, wholeChunks, takeChunks_eq_map,
    zipWith_map_range _ _ (Scalar.zero .int32), List.length_range]
  refine List.map_congr_left fun i hi => ?_
  have hlt : i < length / block :=
    Nat.lt_of_lt_of_le (List.mem_range.mp hi) (Nat.min_le_right ..)
  refine Option.map_congr fun start hstart => ?_
  rw [take_drop_range hlt, ← updates_eq_blockItem (i * block) (blockStart?_le hstart)]
  simp

/-! ## Runs -/

/-- Items that all address a block run to the end. -/
theorem run_append (done : List (WorkItem t)) (rest : List (Option (WorkItem t)))
    (values : Array (Scalar t)) :
    run (done.map some ++ rest) values = run rest (done.foldl WorkItem.apply values) := by
  induction done generalizing values with
  | nil => rfl
  | cons item done ih => exact ih _

/-- Items that add blocks do what the loop over them does. -/
theorem toList_foldl_blockItem (block count : Nat) (target origin : Nat → Nat)
    (source destination : List (Scalar t)) :
    (((List.range count).map fun i => blockItem block (target i) (origin i) source).foldl
        WorkItem.apply destination.toArray).toList =
      addBlocks block count target origin source destination := by
  rw [List.foldl_map, addBlocks]
  exact (List.foldl_hom Array.toList fun values i =>
    (toList_apply_blockItem block (target i) (origin i) source values).symm).symm

variable {block count : Nat} {target origin : Nat → Nat} {source destination : List (Scalar t)}
  {items : Nat → Option (WorkItem t)}

/-- A run of items that all add a block does what the loop does. -/
theorem run_of_all
    (hall : ∀ i < count, items i = some (blockItem block (target i) (origin i) source)) :
    run ((List.range count).map items) destination.toArray =
      ⟨addBlocks block count target origin source destination, true⟩ := by
  have hitems : (List.range count).map items =
      ((List.range count).map fun i => blockItem block (target i) (origin i) source).map some ++
        [] := by
    rw [List.append_nil, List.map_map]
    exact List.map_congr_left fun i hi => hall i (List.mem_range.mp hi)
  rw [hitems, run_append, run, toList_foldl_blockItem]

/-- A run stops at the first item that adds no block. -/
theorem run_of_first {j : Nat} (hj : j < count)
    (hbefore : ∀ i < j, items i = some (blockItem block (target i) (origin i) source))
    (hstop : items j = none) :
    run ((List.range count).map items) destination.toArray =
      ⟨addBlocks block j target origin source destination, false⟩ := by
  have hrange : List.range count = List.range j ++ j :: List.range' (j + 1) (count - (j + 1)) := by
    have hsucc : count - j = count - (j + 1) + 1 := by omega
    have hsplit := List.range'_append_1 (s := 0) (m := j) (n := count - j)
    rw [Nat.zero_add, Nat.add_sub_cancel' (Nat.le_of_lt hj)] at hsplit
    rw [List.range_eq_range', List.range_eq_range', ← hsplit, hsucc, List.range'_succ]
  have hitems : (List.range count).map items =
      ((List.range j).map fun i => blockItem block (target i) (origin i) source).map some ++
        none :: (List.range' (j + 1) (count - (j + 1))).map items := by
    rw [hrange, List.map_append, List.map_cons, hstop, List.map_map]
    refine congrArg (· ++ _) (List.map_congr_left fun i hi => ?_)
    exact hbefore i (List.mem_range.mp hi)
  rw [hitems, run_append, run, toList_foldl_blockItem]

/-- Of items that do not all add a block, one is the first that does not. -/
theorem exists_first {P : Nat → Prop} (h : ¬ ∀ i < count, P i) :
    ∃ j < count, (∀ i < j, P i) ∧ ¬ P j := by
  induction count with
  | zero => exact absurd (fun i hi => absurd hi (Nat.not_lt_zero i)) h
  | succ count ih =>
    by_cases hbefore : ∀ i < count, P i
    · refine ⟨count, Nat.lt_succ_self count, hbefore, fun hcount => h fun i hi => ?_⟩
      rcases Nat.lt_succ_iff_lt_or_eq.mp hi with hlt | rfl
      · exact hbefore i hlt
      · exact hcount
    · obtain ⟨j, hj, hfirst⟩ := ih hbefore
      exact ⟨j, Nat.lt_succ_of_lt hj, hfirst⟩

/-! ## Indices in machine words -/

/-- Where the machine takes the block of an index to begin: it extends the index to a word
    with its sign, multiplies, and stops at an overflow or past the end of the list. -/
def machineStart? (index : Scalar .int32) (block length : Nat) : Option Nat :=
  (Word.mul? (index.signExtend 64).toNat block).bind fun start =>
    (Word.add? start block).bind fun stop => if stop ≤ length then some start else none

theorem toNat_signExtend (index : Scalar .int32) :
    0 ≤ index.toInt ∧ (index.signExtend 64).toNat = index.toInt.toNat ∨
      index.toInt < 0 ∧ HostMemory.largestCapacity < (index.signExtend 64).toNat := by
  have hsigned : (index.signExtend 64).toInt = index.toInt :=
    BitVec.toInt_signExtend_of_le (by decide)
  have hword : (index.signExtend 64).toNat < 2 ^ 64 := (index.signExtend 64).isLt
  have hlargest : HostMemory.largestCapacity = 2 ^ 63 - 1 := rfl
  rw [BitVec.toInt_eq_toNat_cond] at hsigned
  split at hsigned
  next hhalf => exact .inl (by omega)
  next hhalf => exact .inr (by omega)

theorem checkedStart_eq {i block length : Nat} (hlength : length < Word.limit) :
    ((Word.mul? i block).bind fun start =>
        (Word.add? start block).bind fun stop => if stop ≤ length then some start else none) =
      if (i + 1) * block ≤ length then some (i * block) else none := by
  rw [Nat.succ_mul]
  by_cases hstop : i * block + block < Word.limit
  · have hstart : i * block < Word.limit := by omega
    rw [Word.mul?_eq_some_iff.mpr ⟨hstart, rfl⟩, Option.bind_some,
      Word.add?_eq_some_iff.mpr ⟨hstop, rfl⟩, Option.bind_some]
  · rw [if_neg (by omega)]
    simp only [Option.bind_eq_none_iff]
    intro start hstart stop hstop'
    obtain ⟨-, rfl⟩ := Word.mul?_eq_some_iff.mp hstart
    exact absurd (Word.add?_eq_some_iff.mp hstop').1 hstop

/-- A word holds the beginning of every block of a list that fits in memory, and takes
    negative indices and overflows for what they are. -/
theorem machineStart?_eq {index : Scalar .int32} {block length : Nat} (hblock : 0 < block)
    (hlength : length ≤ HostMemory.largestCapacity) :
    machineStart? index block length = blockStart? index block length := by
  have hlimit : length < Word.limit := Nat.lt_of_le_of_lt hlength (by decide)
  rw [machineStart?, checkedStart_eq hlimit]
  rcases toNat_signExtend index with ⟨hsign, hvalue⟩ | ⟨hsign, hvalue⟩
  · change _ = if 0 ≤ index.toInt ∧ (index.toInt.toNat + 1) * block ≤ length then
      some (index.toInt.toNat * block) else none
    simp only [hvalue, hsign, true_and]
  · -- a negative index is a word that lies past the end of every list
    have hnone : blockStart? index block length = none :=
      if_neg fun hinside => absurd hinside.1 (Int.not_le.mpr hsign)
    have hpast : (index.signExtend 64).toNat + 1 ≤ ((index.signExtend 64).toNat + 1) * block :=
      Nat.le_mul_of_pos_right _ hblock
    rw [hnone, if_neg (by omega)]

/-- The machine finds the block of an index exactly where there is one. -/
theorem machineStart?_eq_some_iff {indices : List (Scalar .int32)} {block length i start : Nat}
    (hblock : 0 < block) (hlength : length ≤ HostMemory.largestCapacity) :
    machineStart? (indices.getD i (Scalar.zero .int32)) block length = some start ↔
      Addresses (indexAt indices i) block length ∧
        start = (indexAt indices i).toNat * block := by
  rw [machineStart?_eq hblock hlength]
  by_cases hinside : Addresses (indexAt indices i) block length
  · rw [blockStart?_of_addresses hinside, Option.some.injEq, eq_comm]
    exact (and_iff_right hinside).symm
  · rw [blockStart?_of_not_addresses hinside]
    exact iff_of_false (fun hnone => by cases hnone) fun h => hinside h.1

/-! ## Launches -/

theorem span?_eq {g : Grid} (hthreads : 0 < g.threadsPerBlock) (hblock : 0 < block)
    (hspan : g.threadsPerBlock * block < Word.limit) :
    g.span? block = some (g.threadsPerBlock * block) := by
  have hproduct : Word.mul? g.threadsPerBlock block = some (g.threadsPerBlock * block) :=
    Word.mul?_eq_some_iff.mpr ⟨hspan, rfl⟩
  have hpos : 0 < g.threadsPerBlock * block := Nat.mul_pos hthreads hblock
  rw [Grid.span?, hproduct]
  cases hvalue : g.threadsPerBlock * block with
  | zero => exact absurd hvalue (Nat.ne_of_gt hpos)
  | succ n => rfl

variable {g : Grid} {indices : List (Scalar .int32)}

/-- A scatter whose indices all address a block of the destination is its loop. -/
theorem scatter_of_all (hthreads : 1 ≤ g.threadsPerBlock) (hblock : 1 ≤ block)
    (hspan : g.threadsPerBlock * block < Word.limit)
    (hall : ∀ i < scatterCount block indices source,
      Addresses (indexAt indices i) block destination.length) :
    scatter g block destination indices source =
      ⟨scatterLoop block (scatterCount block indices source) destination indices source, true⟩ := by
  rw [scatter, span?_eq hthreads hblock hspan]
  simp only
  rw [scatterItems_eq destination.length indices source hthreads hblock]
  refine run_of_all fun i hi => ?_
  rw [blockStart?_of_addresses (hall i hi), Option.map_some]
  rfl

/-- A scatter stops at the first index that addresses no block of the destination. -/
theorem scatter_of_first {j : Nat} (hthreads : 1 ≤ g.threadsPerBlock) (hblock : 1 ≤ block)
    (hspan : g.threadsPerBlock * block < Word.limit) (hj : j < scatterCount block indices source)
    (hbefore : ∀ i < j, Addresses (indexAt indices i) block destination.length)
    (hstop : ¬ Addresses (indexAt indices j) block destination.length) :
    scatter g block destination indices source =
      ⟨scatterLoop block j destination indices source, false⟩ := by
  rw [scatter, span?_eq hthreads hblock hspan]
  simp only
  rw [scatterItems_eq destination.length indices source hthreads hblock]
  refine run_of_first hj (fun i hi => ?_) ?_
  · rw [blockStart?_of_addresses (hbefore i hi), Option.map_some]
    rfl
  · rw [blockStart?_of_not_addresses hstop, Option.map_none]

/-- A gather whose indices all address a block of the source is its loop. -/
theorem gather_of_all (hthreads : 1 ≤ g.threadsPerBlock) (hblock : 1 ≤ block)
    (hspan : g.threadsPerBlock * block < Word.limit)
    (hall : ∀ i < gatherCount block destination indices,
      Addresses (indexAt indices i) block source.length) :
    gather g block destination indices source =
      ⟨gatherLoop block (gatherCount block destination indices) destination indices source,
        true⟩ := by
  rw [gather, span?_eq hthreads hblock hspan]
  simp only
  rw [gatherItems_eq destination.length indices source hthreads hblock]
  refine run_of_all fun i hi => ?_
  rw [blockStart?_of_addresses (hall i hi), Option.map_some]
  rfl

/-- A gather stops at the first index that addresses no block of the source. -/
theorem gather_of_first {j : Nat} (hthreads : 1 ≤ g.threadsPerBlock) (hblock : 1 ≤ block)
    (hspan : g.threadsPerBlock * block < Word.limit)
    (hj : j < gatherCount block destination indices)
    (hbefore : ∀ i < j, Addresses (indexAt indices i) block source.length)
    (hstop : ¬ Addresses (indexAt indices j) block source.length) :
    gather g block destination indices source =
      ⟨gatherLoop block j destination indices source, false⟩ := by
  rw [gather, span?_eq hthreads hblock hspan]
  simp only
  rw [gatherItems_eq destination.length indices source hthreads hblock]
  refine run_of_first hj (fun i hi => ?_) ?_
  · rw [blockStart?_of_addresses (hbefore i hi), Option.map_some]
    rfl
  · rw [blockStart?_of_not_addresses hstop, Option.map_none]

/-- Scalars outside the blocks that the first indices address stay as they are. -/
theorem getElem?_scatterLoop {q : Nat}
    (hall : ∀ i < count, Addresses (indexAt indices i) block destination.length)
    (hq : ∀ i < count, (q : Int) < indexAt indices i * block ∨
      (indexAt indices i + 1) * block ≤ q) :
    (scatterLoop block count destination indices source)[q]? = destination[q]? := by
  refine getElem?_addBlocks source destination fun i hi => ?_
  have hindex : ((indexAt indices i).toNat : Int) = indexAt indices i :=
    Int.toNat_of_nonneg (hall i hi).1
  have hout := hq i hi
  rw [← hindex, Int.add_mul, Int.one_mul] at hout
  norm_cast at hout

/-- A scatter does what its loop over items and scalars does, whatever the number of
    threads: all of it if every index addresses a block of the destination, and else the
    items before the first index that addresses none. No other scalar changes, and the
    machine finds the block of an index exactly where there is one. If the scalars are
    integers, what the loop adds wraps to the width of their type. -/
theorem scatter_refines_loop (hthreads : 1 ≤ g.threadsPerBlock) (hblock : 1 ≤ block)
    (hspan : g.threadsPerBlock * block < Word.limit) (destination : List (Scalar t))
    (indices : List (Scalar .int32)) (source : List (Scalar t)) :
    ((∀ i < scatterCount block indices source,
          Addresses (indexAt indices i) block destination.length) →
        scatter g block destination indices source =
          ⟨scatterLoop block (scatterCount block indices source) destination indices source,
            true⟩) ∧
      (∀ j < scatterCount block indices source,
        (∀ i < j, Addresses (indexAt indices i) block destination.length) →
          ¬ Addresses (indexAt indices j) block destination.length →
            scatter g block destination indices source =
              ⟨scatterLoop block j destination indices source, false⟩) ∧
      (∀ q : Nat,
        (∀ i < scatterCount block indices source,
          (q : Int) < indexAt indices i * block ∨ (indexAt indices i + 1) * block ≤ q) →
            (scatter g block destination indices source).values[q]? = destination[q]?) ∧
      (destination.length ≤ HostMemory.largestCapacity →
        ∀ i start, machineStart? (indices.getD i (Scalar.zero .int32)) block destination.length =
            some start ↔
          Addresses (indexAt indices i) block destination.length ∧
            start = (indexAt indices i).toNat * block) ∧
      (t = .int32 ∨ t = .int64 →
        ∀ a b : Scalar t, (Scalar.add a b).toInt = (a.toInt + b.toInt).bmod (2 ^ t.bits)) := by
  refine ⟨scatter_of_all hthreads hblock hspan,
    fun j hj hbefore hstop => scatter_of_first hthreads hblock hspan hj hbefore hstop,
    fun q hq => ?_, fun hlength i start => machineStart?_eq_some_iff hblock hlength,
    Scalar.toInt_add_of_integer⟩
  by_cases hall : ∀ i < scatterCount block indices source,
      Addresses (indexAt indices i) block destination.length
  · rw [scatter_of_all hthreads hblock hspan hall]
    exact getElem?_scatterLoop hall hq
  · obtain ⟨j, hj, hbefore, hstop⟩ := exists_first hall
    rw [scatter_of_first hthreads hblock hspan hj hbefore hstop]
    exact getElem?_scatterLoop hbefore fun i hi => hq i (Nat.lt_trans hi hj)

/-- Two items add into one block, and a third index is negative. -/
theorem scatter_refines_loop_negative :
    scatter ⟨2⟩ 2 [10, 20, 30, 40] [1, 1, -1] [1, 2, 3, 4, 5, 6] =
        ⟨scatterLoop (t := .int32) 2 2 [10, 20, 30, 40] [1, 1, -1] [1, 2, 3, 4, 5, 6], false⟩ ∧
      scatterLoop (t := .int32) 2 2 [10, 20, 30, 40] [1, 1, -1] [1, 2, 3, 4, 5, 6] =
        [10, 20, 34, 46] := by
  refine ⟨?_, by decide⟩
  exact (scatter_refines_loop (by decide) (by decide) (by decide) _ _ _).2.1 2 (by decide)
    (by decide) (by decide)

end Launch

end DeviceMemory
