-- SUMMARY: The order of the additions of a scatter of integers does not matter, nor that of the items of any gather.
import DeviceMemory.Proofs.Launch.Sequential
import Mathlib.Data.List.Nodup

/-!
# Orders of execution

Blocks of a grid may run at the same time, and then their additions come in some
order that no one chose. Integer additions commute, also where they meet at one
scalar, so every order of the additions of a scatter gives the same destination.
The items of a gather never meet: each has scalars of the destination of its own,
and what it adds comes from the source alone. So their order does not matter
whatever the type, and whatever the addition.
-/

namespace DeviceMemory.Launch

variable {t : ScalarType}

/-! ## Additions that commute -/

theorem add_right_comm_of_integer (ht : t = .int32 ∨ t = .int64) (a b c : Scalar t) :
    Scalar.add (Scalar.add a b) c = Scalar.add (Scalar.add a c) b := by
  have hcomm : ∀ {w : Nat} (a b c : BitVec w), a + b + c = a + c + b := by
    intro w a b c
    rw [BitVec.add_assoc, BitVec.add_comm b c, ← BitVec.add_assoc]
  rcases ht with rfl | rfl
  · exact hcomm a b c
  · exact hcomm a b c

/-- Integer additions commute, at one scalar or at two. -/
theorem apply_comm_of_integer (ht : t = .int32 ∨ t = .int64) (values : Array (Scalar t))
    (u v : Update t) : v.apply (u.apply values) = u.apply (v.apply values) := by
  apply Array.ext'
  simp only [toList_applyUpdate]
  by_cases hposition : u.position = v.position
  · rw [hposition, List.modify_modify_eq, List.modify_modify_eq]
    refine congrArg (List.modify values.toList v.position ·) (funext fun value => ?_)
    exact add_right_comm_of_integer ht value u.value v.value
  · exact List.modify_modify_ne _ _ _ hposition

/-- Additions at two scalars commute, whatever the type. -/
theorem apply_comm_of_ne (values : Array (Scalar t)) {u v : Update t}
    (h : u.position ≠ v.position) : v.apply (u.apply values) = u.apply (v.apply values) := by
  apply Array.ext'
  simp only [toList_applyUpdate]
  exact List.modify_modify_ne _ _ _ h

/-- Integer additions come in any order. -/
theorem foldl_apply_of_integer (ht : t = .int32 ∨ t = .int64) {additions order : List (Update t)}
    (hperm : order.Perm additions) (values : Array (Scalar t)) :
    order.foldl Update.apply values = additions.foldl Update.apply values :=
  List.Perm.foldl_eq' hperm
    (fun u _ v _ between => apply_comm_of_integer ht between u v) values

/-- Additions that each have a scalar of their own come in any order. -/
theorem foldl_apply_of_nodup {additions order : List (Update t)} (hperm : order.Perm additions)
    (hnodup : (additions.map Update.position).Nodup) (values : Array (Scalar t)) :
    order.foldl Update.apply values = additions.foldl Update.apply values := by
  refine List.Perm.foldl_eq' hperm (fun u hu v hv between => ?_) values
  -- two additions of the list are the same one or have different scalars
  by_cases hsame : u = v
  · rw [hsame]
  · refine apply_comm_of_ne between fun hposition => hsame ?_
    exact List.inj_on_of_nodup_map hnodup (hperm.mem_iff.mp hu) (hperm.mem_iff.mp hv) hposition

/-- Items one after another make their additions one after another. -/
theorem foldl_flatten_items (items : List (WorkItem t)) (values : Array (Scalar t)) :
    items.flatten.foldl Update.apply values = items.foldl WorkItem.apply values :=
  List.foldl_flatten

/-! ## The additions of a launch -/

variable {g : Grid} {block : Nat} {destination source : List (Scalar t)}
  {indices : List (Scalar .int32)}

/-- The items of a scatter that address a block. -/
def scatterWork (g : Grid) (block : Nat) (destination : List (Scalar t))
    (indices : List (Scalar .int32)) (source : List (Scalar t)) : List (WorkItem t) :=
  (scatterItems g.threadsPerBlock (g.threadsPerBlock * block) block destination.length indices
    source).filterMap id

/-- The items of a gather that address a block. -/
def gatherWork (g : Grid) (block : Nat) (destination : List (Scalar t))
    (indices : List (Scalar .int32)) (source : List (Scalar t)) : List (WorkItem t) :=
  (gatherItems g.threadsPerBlock (g.threadsPerBlock * block) block destination.length indices
    source.toArray).filterMap id

/-- A run of items that all address a block applies them in order. -/
theorem run_eq_foldl {items : List (Option (WorkItem t))} {values : Array (Scalar t)}
    (h : (run items values).finished) :
    run items values = ⟨((items.filterMap id).foldl WorkItem.apply values).toList, true⟩ := by
  induction items generalizing values with
  | nil => rfl
  | cons item items ih =>
    cases item with
    | none => cases h
    | some item => exact ih h

theorem scatter_eq_foldl (hthreads : 1 ≤ g.threadsPerBlock) (hblock : 1 ≤ block)
    (hspan : g.threadsPerBlock * block < Word.limit)
    (h : (scatter g block destination indices source).finished) :
    scatter g block destination indices source =
      ⟨((scatterWork g block destination indices source).foldl WorkItem.apply
        destination.toArray).toList, true⟩ := by
  rw [scatter, span?_eq hthreads hblock hspan] at h ⊢
  exact run_eq_foldl h

theorem gather_eq_foldl (hthreads : 1 ≤ g.threadsPerBlock) (hblock : 1 ≤ block)
    (hspan : g.threadsPerBlock * block < Word.limit)
    (h : (gather g block destination indices source).finished) :
    gather g block destination indices source =
      ⟨((gatherWork g block destination indices source).foldl WorkItem.apply
        destination.toArray).toList, true⟩ := by
  rw [gather, span?_eq hthreads hblock hspan] at h ⊢
  exact run_eq_foldl h

/-- Items that all add a block are those blocks. -/
theorem filterMap_of_all {count : Nat} {items : Nat → Option (WorkItem t)}
    {work : Nat → WorkItem t} (hall : ∀ i < count, items i = some (work i)) :
    ((List.range count).map items).filterMap id = (List.range count).map work := by
  rw [List.filterMap_map, ← List.filterMap_eq_map]
  refine List.filterMap_congr fun i hi => ?_
  exact hall i (List.mem_range.mp hi)

/-- Item `i` of a scatter adds block `i` of the source. -/
theorem scatterWork_eq (hthreads : 1 ≤ g.threadsPerBlock) (hblock : 1 ≤ block)
    (hall : ∀ i < scatterCount block indices source,
      Addresses (indexAt indices i) block destination.length) :
    scatterWork g block destination indices source =
      (List.range (scatterCount block indices source)).map fun i =>
        blockItem block ((indexAt indices i).toNat * block) (i * block) source := by
  rw [scatterWork, scatterItems_eq destination.length indices source hthreads hblock]
  refine filterMap_of_all fun i hi => ?_
  rw [blockStart?_of_addresses (hall i hi), Option.map_some]
  rfl

/-- Item `i` of a gather adds into block `i` of the destination. -/
theorem gatherWork_eq (hthreads : 1 ≤ g.threadsPerBlock) (hblock : 1 ≤ block)
    (hall : ∀ i < gatherCount block destination indices,
      Addresses (indexAt indices i) block source.length) :
    gatherWork g block destination indices source =
      (List.range (gatherCount block destination indices)).map fun i =>
        blockItem block (i * block) ((indexAt indices i).toNat * block) source := by
  rw [gatherWork, gatherItems_eq destination.length indices source hthreads hblock]
  refine filterMap_of_all fun i hi => ?_
  rw [blockStart?_of_addresses (hall i hi), Option.map_some]
  rfl

/-- Blocks of the destination follow one another. -/
theorem positions_blocks (block count : Nat) (origin : Nat → Nat) (source : List (Scalar t)) :
    (((List.range count).map fun i => blockItem block (i * block) (origin i) source).flatten.map
      Update.position) = List.range (count * block) := by
  induction count with
  | zero => simp
  | succ count ih =>
    have hlast : (blockItem block (count * block) (origin count) source).map Update.position =
        (List.range block).map (count * block + ·) := List.map_map
    rw [List.range_succ, List.map_append, List.flatten_append, List.map_append, ih,
      List.map_singleton, List.flatten_singleton, hlast, Nat.succ_mul, List.range_add]

/-- What a block holds is what the source holds. -/
theorem value_mem_of_mem_blockItem {target origin : Nat} {u : Update t}
    (hinside : origin + block ≤ source.length) (hu : u ∈ blockItem block target origin source) :
    u.value ∈ source := by
  obtain ⟨k, hk, rfl⟩ := List.mem_map.mp hu
  have hlt : origin + k < source.length := by
    have := List.mem_range.mp hk
    omega
  simp [hlt]

theorem length_flatten_blocks (block count : Nat) (target origin : Nat → Nat)
    (source : List (Scalar t)) :
    ((List.range count).map fun i =>
      blockItem block (target i) (origin i) source).flatten.length = count * block := by
  induction count with
  | zero => simp
  | succ count ih =>
    rw [List.range_succ, List.map_append, List.flatten_append, List.length_append, ih,
      List.map_singleton, List.flatten_singleton, blockItem, List.length_map, List.length_range,
      Nat.succ_mul]

/-! ## Any order -/

/-- The additions of a scatter of integers give the destination of the launch in whatever
    order they come, one for every scalar of every item. The items of a gather have
    destinations that do not meet and add nothing but scalars of the source, so they and
    their single additions come in whatever order too, whatever the type. -/
theorem launches_any_order (hthreads : 1 ≤ g.threadsPerBlock) (hblock : 1 ≤ block)
    (hspan : g.threadsPerBlock * block < Word.limit) (destination : List (Scalar t))
    (indices : List (Scalar .int32)) (source : List (Scalar t)) :
    ((t = .int32 ∨ t = .int64) →
      (∀ i < scatterCount block indices source,
        Addresses (indexAt indices i) block destination.length) →
      (scatterWork g block destination indices source).flatten.length =
          scatterCount block indices source * block ∧
        ∀ order : List (Update t),
          order.Perm (scatterWork g block destination indices source).flatten →
            scatter g block destination indices source =
              ⟨(order.foldl Update.apply destination.toArray).toList, true⟩) ∧
    ((∀ i < gatherCount block destination indices,
        Addresses (indexAt indices i) block source.length) →
      ((gatherWork g block destination indices source).flatten.map Update.position).Nodup ∧
        (∀ u ∈ (gatherWork g block destination indices source).flatten, u.value ∈ source) ∧
        (∀ order : List (WorkItem t),
          order.Perm (gatherWork g block destination indices source) →
            gather g block destination indices source =
              ⟨(order.foldl WorkItem.apply destination.toArray).toList, true⟩) ∧
        ∀ order : List (Update t),
          order.Perm (gatherWork g block destination indices source).flatten →
            gather g block destination indices source =
              ⟨(order.foldl Update.apply destination.toArray).toList, true⟩) := by
  refine ⟨fun ht hall => ⟨?_, fun order hperm => ?_⟩, fun hall => ?_⟩
  · rw [scatterWork_eq hthreads hblock hall, length_flatten_blocks]
  · have hfinished : (scatter g block destination indices source).finished := by
      rw [scatter_of_all hthreads hblock hspan hall]
    rw [scatter_eq_foldl hthreads hblock hspan hfinished, ← foldl_flatten_items,
      foldl_apply_of_integer ht hperm]
  · have hfinished : (gather g block destination indices source).finished := by
      rw [gather_of_all hthreads hblock hspan hall]
    have hnodup : ((gatherWork g block destination indices source).flatten.map
        Update.position).Nodup := by
      rw [gatherWork_eq hthreads hblock hall, positions_blocks]
      exact List.nodup_range
    have hadditions : ∀ order : List (Update t),
        order.Perm (gatherWork g block destination indices source).flatten →
          gather g block destination indices source =
            ⟨(order.foldl Update.apply destination.toArray).toList, true⟩ := by
      intro order hperm
      rw [gather_eq_foldl hthreads hblock hspan hfinished, ← foldl_flatten_items,
        foldl_apply_of_nodup hperm hnodup]
    refine ⟨hnodup, fun u hu => ?_, fun order hperm => ?_, hadditions⟩
    · rw [gatherWork_eq hthreads hblock hall] at hu
      obtain ⟨item, hitem, hu⟩ := List.mem_flatten.mp hu
      obtain ⟨i, hi, rfl⟩ := List.mem_map.mp hitem
      have hinside := addresses_iff.mp (hall i (List.mem_range.mp hi))
      rw [Nat.succ_mul] at hinside
      exact value_mem_of_mem_blockItem hinside.2 hu
    · rw [← foldl_flatten_items]
      exact hadditions order.flatten hperm.flatten

/-- Three items of a scatter meet in pairs, and those of a gather of single precision
    numbers read one block twice. Both run backwards. -/
theorem launches_any_order_backwards :
    (scatter (t := .int32) ⟨2⟩ 2 [10, 20, 30, 40] [1, 1, 0] [1, 2, 3, 4, 5, 6] =
        ⟨((scatterWork ⟨2⟩ 2 [10, 20, 30, 40] [1, 1, 0]
          [1, 2, 3, 4, 5, 6]).flatten.reverse.foldl Update.apply #[10, 20, 30, 40]).toList,
          true⟩) ∧
      gather (t := .float32) ⟨1⟩ 2 [1, 2, 3, 4, 5, 6] [1, 1, 0] [7, 8, 9, 10] =
        ⟨((gatherWork ⟨1⟩ 2 [1, 2, 3, 4, 5, 6] [1, 1, 0] [7, 8, 9, 10]).reverse.foldl
          WorkItem.apply #[1, 2, 3, 4, 5, 6]).toList, true⟩ := by
  refine ⟨?_, ?_⟩
  · exact ((launches_any_order (by decide) (by decide) (by decide) _ _ _).1 (.inl rfl)
      (by decide)).2 _ (List.reverse_perm _)
  · exact ((launches_any_order (by decide) (by decide) (by decide) _ _ _).2
      (by decide)).2.2.1 _ (List.reverse_perm _)

end DeviceMemory.Launch
