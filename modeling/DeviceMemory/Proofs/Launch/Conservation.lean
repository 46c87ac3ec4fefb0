-- SUMMARY: A scatter of integers adds the sum of its source to the sum of its destination.
import DeviceMemory.Proofs.Launch.Order
import DeviceMemory.Proofs.Launch.Reductions
import DeviceMemory.Proofs.Launch.Success

/-!
# Conservation

The sum of integers does not depend on how a reduction splits them
(`Reduction.fold_chunks_of_integer`). A scatter makes single additions, each at one
scalar inside the destination, and each adds its value to the sum of the destination
(`Launch.sum_foldl_apply`). So it does not matter where indices collide: the sum grows
by the sum of what was added, item by item, which is the sum of the source
(`Launch.sum_scatter`).
-/

namespace DeviceMemory

open DeviceMemory.Action Launch

variable {t : ScalarType}

/-! ## Additions -/

namespace Launch

variable {g : Grid} {block : Nat} {destination source : List (Scalar t)}
  {indices : List (Scalar .int32)}

theorem sum_modify {w : Nat} {values : List (BitVec w)} {position : Nat}
    (hposition : position < values.length) (value : BitVec w) :
    (values.modify position (· + value)).sum = values.sum + value := by
  rw [Entries.modify_eq_set (List.getElem?_eq_getElem hposition), List.sum_set', dif_pos hposition,
    neg_add_cancel_left]

/-- Additions inside the destination add up. -/
theorem sum_foldl_apply (ht : t = .int32 ∨ t = .int64) (additions : List (Update t))
    (values : Array (Scalar t)) (hinside : ∀ u ∈ additions, u.position < values.size) :
    (additions.foldl Update.apply values).toList.sum =
      values.toList.sum + (additions.map Update.value).sum := by
  induction additions generalizing values with
  | nil => simp
  | cons u additions ih =>
    have hhead : (u.apply values).toList.sum = values.toList.sum + u.value := by
      rw [toList_applyUpdate]
      simp only [Scalar.add_eq_of_integer ht]
      exact sum_modify (hinside u List.mem_cons_self) u.value
    have hsize : (u.apply values).size = values.size := by simp [Update.apply]
    rw [List.foldl_cons, ih _ fun v hv => hsize ▸ hinside v (List.mem_cons_of_mem _ hv), hhead,
      List.map_cons, List.sum_cons, add_assoc]

/-- An item adds one block of the source, -/
theorem values_blockItem {origin : Nat} (target : Nat) (horigin : origin + block ≤ source.length) :
    (blockItem block target origin source).map Update.value =
      (source.drop origin).take block := by
  apply List.ext_getElem
  · simp only [blockItem, List.length_map, List.length_range, List.length_take, List.length_drop]
    omega
  · intro k hk hk'
    have hlt : k < block := by simpa [blockItem] using hk
    have hsource : origin + k < source.length := by omega
    simp [blockItem, hsource]

/-- and blocks of the source follow one another. -/
theorem values_blocks {count : Nat} (target : Nat → Nat) (hcount : count * block ≤ source.length) :
    ((List.range count).map fun i => blockItem block (target i) (i * block) source).flatten.map
      Update.value = source.take (count * block) := by
  induction count with
  | zero => simp
  | succ count ih =>
    rw [Nat.succ_mul] at hcount ⊢
    have hbefore : count * block ≤ source.length := Nat.le_trans (Nat.le_add_right ..) hcount
    rw [List.range_succ, List.map_append, List.flatten_append, List.map_append, ih hbefore,
      List.map_singleton, List.flatten_singleton, values_blockItem _ hcount, List.take_add]

/-- A scatter that ends well ran on a grid whose blocks span a word at most, and every index
    addresses a block. -/
theorem of_scatter_finished (hthreads : 1 ≤ g.threadsPerBlock) (hblock : 1 ≤ block)
    (h : (scatter g block destination indices source).finished = true) :
    g.threadsPerBlock * block < Word.limit ∧
      ∀ i < scatterCount block indices source,
        Addresses (indexAt indices i) block destination.length := by
  have hspan : g.threadsPerBlock * block < Word.limit := by
    by_contra hlimit
    rw [scatter, Grid.span?, Word.mul?_eq_none_iff.mpr (Nat.not_lt.mp hlimit)] at h
    cases h
  refine ⟨hspan, ?_⟩
  by_contra hsome
  obtain ⟨j, hj, hbefore, hstop⟩ := exists_first hsome
  rw [scatter_of_first hthreads hblock hspan hj hbefore hstop] at h
  cases h

/-- Whatever a scatter adds, it adds inside the destination. -/
theorem position_lt_of_mem_scatterWork (hthreads : 1 ≤ g.threadsPerBlock) (hblock : 1 ≤ block)
    (hall : ∀ i < scatterCount block indices source,
      Addresses (indexAt indices i) block destination.length)
    {u : Update t} (hu : u ∈ (scatterWork g block destination indices source).flatten) :
    u.position < destination.length := by
  rw [scatterWork_eq hthreads hblock hall] at hu
  obtain ⟨item, hitem, hu⟩ := List.mem_flatten.mp hu
  obtain ⟨i, hi, rfl⟩ := List.mem_map.mp hitem
  obtain ⟨k, hk, rfl⟩ := List.mem_map.mp hu
  have hinside := (addresses_iff.mp (hall i (List.mem_range.mp hi))).2
  rw [Nat.succ_mul] at hinside
  exact Nat.lt_of_lt_of_le (Nat.add_lt_add_left (List.mem_range.mp hk) _) hinside

/-- A scatter of integers that ends well adds all blocks of the source that have an index. -/
theorem sum_scatter (ht : t = .int32 ∨ t = .int64) (hthreads : 1 ≤ g.threadsPerBlock)
    (hblock : 1 ≤ block) (h : (scatter g block destination indices source).finished = true) :
    (scatter g block destination indices source).values.sum =
      destination.sum + (source.take (scatterCount block indices source * block)).sum := by
  obtain ⟨hspan, hall⟩ := of_scatter_finished hthreads hblock h
  have hinside : ∀ u ∈ (scatterWork g block destination indices source).flatten,
      u.position < destination.toArray.size := fun u hu => by
    rw [List.size_toArray]
    exact position_lt_of_mem_scatterWork hthreads hblock hall hu
  have hcount : scatterCount block indices source * block ≤ source.length :=
    Nat.le_trans (Nat.mul_le_mul_right block (Nat.min_le_right ..))
      (Nat.div_mul_le_self source.length block)
  rw [scatter_eq_foldl hthreads hblock hspan h, ← foldl_flatten_items,
    sum_foldl_apply ht _ _ hinside, scatterWork_eq hthreads hblock hall, values_blocks _ hcount]

end Launch

/-! ## Launches on buffers -/

namespace Kernel

variable {g g₁ g₂ : Grid} {n block : Nat} {s s₁ s₂ s₃ : Store} {before given : Scalar t}
  {destination indices source : Buffer}

/-- The sum of the destination grows by the sum of the blocks of the source that have items. -/
theorem Launched.sum_eq {ready s' : Store} (ht : t = .int32 ∨ t = .int64)
    (h : Launched .scatter t destination indices source n block g ready s') :
    (destination.values t s').sum =
      (destination.values t ready).sum + ((source.values t ready).take (n * block)).sum := by
  have hindexed : n ≤ (indices.values .int32 ready).length := by
    rw [h.indices_backed.length_values h.indices_dtype]
    exact h.indexed
  have hitemized : n * block ≤ (source.values t ready).length := by
    rw [h.source_backed.length_values h.source_dtype]
    exact h.itemized
  have hcount : scatterCount block ((indices.values .int32 ready).take n)
      ((source.values t ready).take (n * block)) = n := min_take h.block_pos hindexed hitemized
  have hsum := sum_scatter ht h.threads_pos h.block_pos h.finished
  rw [hcount, List.take_take, Nat.min_self] at hsum
  rw [h.values_eq.2]
  exact hsum

/-- A scatter of integers that ends well, whatever its indices and whatever overlaps, adds the sum
    of its source, all of which it used, to the sum of its destination. Both sums from before
    and the one from afterwards may be taken on any grids. -/
theorem sum_after_scatter (ht : t = .int32 ∨ t = .int64) (hexact : source.numel = n * block)
    (hbefore : exec (launchReduction .sum t destination g₁) s = (.ok before, s₁))
    (hgiven : exec (launchReduction .sum t source g₂) s₁ = (.ok given, s₂))
    (hlaunch : exec (launch .scatter t destination indices source n block g) s₂ = (.ok (), s₃))
    {g₃ : Grid} (hthreads : 1 ≤ g₃.threadsPerBlock) :
    exec (launchReduction .sum t destination g₃) s₃ = (.ok (Scalar.add before given), s₃) := by
  obtain ⟨-, hdestination, hlaid, rfl, hthreads₁⟩ := of_exec_launchReduction hbefore
  obtain ⟨hacquire, hsource, hsourceLaid, rfl, hthreads₂⟩ := of_exec_launchReduction hgiven
  have hkept : ∀ memory, s₁.block? destination.allocation = some memory →
      s₂.block? destination.allocation = some memory := fun _ => Store.block?_allocate hacquire
  have hsame : destination.values t s₂ = destination.values t s₁ := hdestination.values_kept hkept
  have hdestination : destination.Backed s₂ := hdestination.of_kept hkept
  have hlength : (source.values t s₂).length = n * block :=
    (hsource.length_values hsourceLaid.dtype).trans hexact
  suffices hsum : destination.Backed s₃ ∧ (destination.values t s₃).sum =
      (destination.values t s₂).sum + (source.values t s₂).sum by
    rw [exec_launchReduction hsum.1 hlaid hthreads, Reduction.fold_chunks_of_integer ht hthreads,
      Reduction.fold_chunks_of_integer ht hthreads₁, Reduction.fold_chunks_of_integer ht hthreads₂,
      hsum.2, Scalar.add_eq_of_integer ht, hsame]
  by_cases hitems : n = 0
  · -- nothing was launched, and the source is empty
    rw [launch, if_pos hitems] at hlaunch
    cases hlaunch
    rw [hitems, Nat.zero_mul, List.length_eq_zero_iff] at hlength
    rw [hlength, List.sum_nil, add_zero]
    exact ⟨hdestination, rfl⟩
  · obtain ⟨ready, hready, hlaunched⟩ := of_exec_launch hitems hlaunch
    obtain ⟨hkept, -⟩ := block?_of_acquire hready
    refine ⟨hlaunched.values_eq.1, ?_⟩
    rw [hlaunched.sum_eq ht, hdestination.values_kept (hkept _), hsource.values_kept (hkept _),
      List.take_of_length_le (Nat.le_of_eq hlength)]

/-- The source overlaps the destination, and the sums come from different grids. -/
theorem sum_after_scatter_sixIntegers :
    ∃ s₃, exec (launch .scatter .int32 ⟨0, 0, 12, .int32, [3]⟩ ⟨0, 12, 8, .int32, [2]⟩
        ⟨0, 4, 8, .int32, [2]⟩ 2 1 ⟨1⟩) sixIntegers = (.ok (), s₃) ∧
      exec (launchReduction .sum .int32 ⟨0, 0, 12, .int32, [3]⟩ ⟨256⟩) s₃ = (.ok 110, s₃) := by
  have hbefore : exec (launchReduction .sum .int32 ⟨0, 0, 12, .int32, [3]⟩ ⟨2⟩) sixIntegers =
      (.ok 60, sixIntegers) := rfl
  have hgiven : exec (launchReduction .sum .int32 ⟨0, 4, 8, .int32, [2]⟩ ⟨1⟩) sixIntegers =
      (.ok 50, sixIntegers) := rfl
  have hexact : Buffer.numel ⟨0, 4, 8, .int32, [2]⟩ = 2 * 1 := by decide
  have hlaunch : ∃ s₃, exec (launch .scatter .int32 ⟨0, 0, 12, .int32, [3]⟩
      ⟨0, 12, 8, .int32, [2]⟩ ⟨0, 4, 8, .int32, [2]⟩ 2 1 ⟨1⟩) sixIntegers = (.ok (), s₃) :=
    ⟨_, rfl⟩
  obtain ⟨s₃, hlaunch⟩ := hlaunch
  exact ⟨s₃, hlaunch, sum_after_scatter (.inl rfl) hexact hbefore hgiven hlaunch (by decide)⟩

end Kernel

end DeviceMemory
