-- SUMMARY: A gather through a permutation and a scatter through its inverse leave the same destination.
import DeviceMemory.Proofs.Launch.Aliasing
import Mathlib.Logic.Equiv.Fin.Rotate

/-!
# Permutations

When the indices of a launch are those of a permutation, every block of the
destination meets one item. A gather finds the item by its own number, a scatter by
the index that leads to the block. So a gather through a permutation and a scatter
through its inverse make the same additions, one for each scalar of the first
blocks, and each adds to the scalar that was there (`Launch.addPermuted`). Neither
the order of the items nor the grids matter, and nor does the type.
-/

namespace DeviceMemory

open DeviceMemory.Action

namespace Launch

variable {t : ScalarType} {block count n : Nat} {source destination : List (Scalar t)}

/-! ## Blocks that do not meet -/

/-- Inside a block every scalar has one addition. -/
theorem getElem?_addBlock_inside (target origin : Nat) {k : Nat} (hk : k < block) :
    (addBlock block target origin source destination)[target + k]? =
      destination[target + k]?.map
        (Scalar.add · (source.getD (origin + k) (Scalar.zero t))) := by
  induction block with
  | zero => cases hk
  | succ block ih =>
    have hlast : addBlock (block + 1) target origin source destination =
        (addBlock block target origin source destination).modify (target + block)
          (Scalar.add · (source.getD (origin + block) (Scalar.zero t))) := by
      rw [addBlock, List.range_succ, List.foldl_append]
      rfl
    rw [hlast]
    rcases Nat.lt_succ_iff_lt_or_eq.mp hk with hlt | rfl
    · have hne : target + block ≠ target + k := by omega
      rw [List.getElem?_modify_ne _ _ hne, ih hlt]
    · rw [List.getElem?_modify_eq, getElem?_addBlock source destination (.inr (Nat.le_refl _))]
      rfl

/-- Where blocks lie apart, a scalar of one has its addition only. -/
theorem getElem?_addBlocks_inside {target origin : Nat → Nat}
    (hapart : ∀ i < count, ∀ j < count, i ≠ j →
      target i + block ≤ target j ∨ target j + block ≤ target i)
    {i k : Nat} (hi : i < count) (hk : k < block) :
    (addBlocks block count target origin source destination)[target i + k]? =
      destination[target i + k]?.map
        (Scalar.add · (source.getD (origin i + k) (Scalar.zero t))) := by
  induction count with
  | zero => cases hi
  | succ count ih =>
    have hlast : addBlocks block (count + 1) target origin source destination =
        addBlock block (target count) (origin count) source
          (addBlocks block count target origin source destination) := by
      rw [addBlocks, List.range_succ, List.foldl_append]
      rfl
    have hbefore : ∀ i < count, ∀ j < count, i ≠ j →
        target i + block ≤ target j ∨ target j + block ≤ target i := fun i hi j hj =>
      hapart i (Nat.lt_succ_of_lt hi) j (Nat.lt_succ_of_lt hj)
    rw [hlast]
    rcases Nat.lt_succ_iff_lt_or_eq.mp hi with hlt | rfl
    · -- the last block is another one
      have hout := hapart i hi count (Nat.lt_succ_self count) (Nat.ne_of_lt hlt)
      rw [getElem?_addBlock _ _ (by omega), ih hbefore hlt]
    · -- no block before the last one has touched it
      have hout : ∀ j < i, target i + k < target j ∨ target j + block ≤ target i + k := by
        intro j hj
        have := hapart j (Nat.lt_succ_of_lt hj) i hi (Nat.ne_of_lt hj)
        omega
      rw [getElem?_addBlock_inside _ _ hk, getElem?_addBlocks _ _ hout]

/-! ## Permutations -/

/-- The first indices are those of a permutation. -/
def Permutes (indices : List (Scalar .int32)) (σ : Equiv.Perm (Fin n)) : Prop :=
  ∀ i : Fin n, indexAt indices i = (σ i).val

instance (indices : List (Scalar .int32)) (σ : Equiv.Perm (Fin n)) :
    Decidable (Permutes indices σ) :=
  inferInstanceAs (Decidable (∀ i : Fin n, indexAt indices i = (σ i).val))

/-- Block `σ i` of the source added into block `i` of the destination, for each of the first
    blocks. What comes after them stays. -/
def addPermuted (σ : Equiv.Perm (Fin n)) (block : Nat) (source destination : List (Scalar t)) :
    List (Scalar t) :=
  destination.mapIdx fun q value =>
    if h : q / block < n then
      Scalar.add value
        (source.getD ((σ ⟨q / block, h⟩).val * block + q % block) (Scalar.zero t))
    else value

theorem getElem?_addPermuted (σ : Equiv.Perm (Fin n)) {q : Nat} (h : q / block < n) :
    (addPermuted σ block source destination)[q]? =
      destination[q]?.map
        (Scalar.add · (source.getD ((σ ⟨q / block, h⟩).val * block + q % block)
          (Scalar.zero t))) := by
  simp [addPermuted, h]

theorem getElem?_addPermuted_rest (σ : Equiv.Perm (Fin n)) {q : Nat} (h : ¬ q / block < n) :
    (addPermuted σ block source destination)[q]? = destination[q]? := by
  simp [addPermuted, h]

/-- Blocks of different numbers lie apart. -/
theorem blocks_apart {i j : Nat} (hne : i ≠ j) (block : Nat) :
    i * block + block ≤ j * block ∨ j * block + block ≤ i * block := by
  rw [← Nat.succ_mul, ← Nat.succ_mul]
  rcases Nat.lt_or_gt_of_ne hne with hlt | hlt
  · exact .inl (Nat.mul_le_mul_right block hlt)
  · exact .inr (Nat.mul_le_mul_right block hlt)

/-- It does not matter in which order `ρ` the blocks come. -/
theorem addBlocks_eq_addPermuted (σ ρ : Equiv.Perm (Fin n)) (hblock : 1 ≤ block)
    {target origin : Nat → Nat} (htarget : ∀ i : Fin n, target i = (ρ i).val * block)
    (horigin : ∀ i : Fin n, origin i = (σ (ρ i)).val * block) :
    addBlocks block n target origin source destination =
      addPermuted σ block source destination := by
  have hapart : ∀ i < n, ∀ j < n, i ≠ j →
      target i + block ≤ target j ∨ target j + block ≤ target i := by
    intro i hi j hj hne
    have hblocks : (ρ ⟨i, hi⟩).val ≠ (ρ ⟨j, hj⟩).val := fun heq =>
      hne (Fin.mk.inj (ρ.injective (Fin.ext heq)))
    rw [htarget ⟨i, hi⟩, htarget ⟨j, hj⟩]
    exact blocks_apart hblocks block
  refine List.ext_getElem? fun q => ?_
  have hq : q / block * block + q % block = q := Nat.div_add_mod' q block
  by_cases h : q / block < n
  · -- the item that adds into the block of `q`
    obtain ⟨i, hi⟩ := ρ.surjective ⟨q / block, h⟩
    have hplace : target i + q % block = q := by rw [htarget i, hi, hq]
    have hadded : (addBlocks block n target origin source destination)[target i + q % block]? = _ :=
      getElem?_addBlocks_inside hapart i.isLt (Nat.mod_lt q hblock)
    rw [hplace, horigin i, hi] at hadded
    rw [hadded, getElem?_addPermuted σ h]
  · rw [getElem?_addPermuted_rest σ h]
    refine getElem?_addBlocks source destination fun i hi => .inr ?_
    have hlast : (ρ ⟨i, hi⟩).val + 1 ≤ q / block :=
      Nat.le_trans (ρ ⟨i, hi⟩).isLt (Nat.le_of_not_lt h)
    have hle := Nat.mul_le_mul_right block hlast
    rw [Nat.succ_mul] at hle
    rw [htarget ⟨i, hi⟩]
    exact Nat.le_trans hle (Nat.div_mul_le_self q block)

variable {indices inverse : List (Scalar .int32)} {σ : Equiv.Perm (Fin n)}

/-- Indices of a permutation are numbers of blocks. -/
theorem Permutes.addresses {i length : Nat} (h : Permutes indices σ) (hi : i < n)
    (hlength : n * block ≤ length) : Addresses (indexAt indices i) block length := by
  rw [h ⟨i, hi⟩, addresses_iff, Int.toNat_natCast]
  exact ⟨Int.natCast_nonneg _,
    Nat.le_trans (Nat.mul_le_mul_right block (σ ⟨i, hi⟩).isLt) hlength⟩

theorem Permutes.toNat_indexAt (h : Permutes indices σ) (i : Fin n) :
    (indexAt indices i).toNat = (σ i).val := by
  rw [h i, Int.toNat_natCast]

/-- A gather finds the blocks one after another, -/
theorem gatherLoop_eq_addPermuted (hblock : 1 ≤ block) (h : Permutes indices σ) :
    gatherLoop block n destination indices source = addPermuted σ block source destination :=
  addBlocks_eq_addPermuted σ (Equiv.refl _) hblock (fun _ => rfl)
    fun i => congrArg (· * block) (h.toNat_indexAt i)

/-- and a scatter in the order of the inverse. -/
theorem scatterLoop_eq_addPermuted (hblock : 1 ≤ block) (h : Permutes inverse σ.symm) :
    scatterLoop block n destination inverse source = addPermuted σ block source destination := by
  refine addBlocks_eq_addPermuted σ σ.symm hblock
    (fun i => congrArg (· * block) (h.toNat_indexAt i)) fun i => ?_
  rw [Equiv.apply_symm_apply]

end Launch

/-! ## Launches -/

namespace Direction

open Launch

variable {t : ScalarType} {n block : Nat} {σ : Equiv.Perm (Fin n)}
  {indices : List (Scalar .int32)} {source destination : List (Scalar t)}

/-- The indices with which a launch adds block `σ i` of the source into block `i` of the
    destination. -/
def Carries (d : Direction) (indices : List (Scalar .int32)) (σ : Equiv.Perm (Fin n)) : Prop :=
  match d with
  | .scatter => Permutes indices σ.symm
  | .gather => Permutes indices σ

theorem Carries.addresses {d : Direction} {i length : Nat} (h : d.Carries indices σ) (hi : i < n)
    (hlength : n * block ≤ length) : Addresses (indexAt indices i) block length := by
  cases d with
  | scatter => exact Permutes.addresses h hi hlength
  | gather => exact Permutes.addresses h hi hlength

theorem Carries.loop_eq {d : Direction} (hblock : 1 ≤ block) (h : d.Carries indices σ) :
    d.loop n block destination indices source = addPermuted σ block source destination := by
  cases d with
  | scatter => exact scatterLoop_eq_addPermuted hblock h
  | gather => exact gatherLoop_eq_addPermuted hblock h

end Direction

namespace Kernel

open Launch

variable {d : Direction} {t : ScalarType} {n block : Nat} {g g₁ g₂ : Grid}
  {σ : Equiv.Perm (Fin n)}

/-- A launch through a permutation runs to the end. -/
theorem accumulate_of_carries {old values : List (Scalar t)} {positions : List (Scalar .int32)}
    (hthreads : 1 ≤ g.threadsPerBlock) (hblock : 1 ≤ block)
    (hspan : g.threadsPerBlock * block < Word.limit) (hindices : n ≤ positions.length)
    (hold : n * block ≤ old.length) (hvalues : n * block ≤ values.length)
    (hcarries : d.Carries positions σ) :
    accumulate d g n block old positions values = ⟨addPermuted σ block values old, true⟩ := by
  have hitemized : n * block ≤ (d.itemized old values).length := by
    cases d with
    | scatter => exact hvalues
    | gather => exact hold
  have haddressed : n * block ≤ (d.addressed old values).length := by
    cases d with
    | scatter => exact hold
    | gather => exact hvalues
  rw [accumulate_of_all hthreads hblock hspan hindices hitemized
    fun i hi => hcarries.addresses hi haddressed, hcarries.loop_eq hblock]

variable {destination indices source : Buffer} {s ready : Store}

/-- So does one on buffers, whatever overlaps, and leaves the permuted sum. -/
theorem Launchable.exec_launch_of_carries
    (h : Launchable d t destination indices source n block g ready)
    (hready : exec (do destination.acquire; source.acquire; indices.acquire) s = (.ok (), ready))
    (hdestination : n * block ≤ destination.numel) (hsource : n * block ≤ source.numel)
    (hcarries : d.Carries (indices.values .int32 ready) σ) :
    ∃ s', exec (launch d t destination indices source n block g) s = (.ok (), s') ∧
      destination.bytes s' = Scalar.encodeAll
        (addPermuted σ block (source.values t ready) (destination.values t ready)) := by
  obtain ⟨s', hexec, hwritten⟩ := h.exec_launch hready
  have hbacked := h.destination_readable.backed
  have hlength := length_encodeAll_result d indices source n block g hbacked
    h.destination_readable.laidOut
  have hresult : result d t destination indices source n block g ready =
      ⟨addPermuted σ block (source.values t ready) (destination.values t ready), true⟩ := by
    refine accumulate_of_carries h.threads_pos h.block_pos h.span_lt ?_ ?_ ?_ hcarries
    · exact h.indices_readable.length_values ▸ h.indexed
    · exact h.destination_readable.length_values ▸ hdestination
    · exact h.source_readable.length_values ▸ hsource
  rw [hresult] at hexec hwritten hlength
  exact ⟨s', hexec, hwritten.bytes_eq hbacked hlength⟩

/-- A gather through a permutation and a scatter through its inverse, on destinations that hold
    the same and sources that hold the same, run to the end on any two grids and leave the same
    bytes: block `σ i` of the source has been added into block `i` of the destination, once,
    and nothing else has changed. -/
theorem gather_eq_scatter_inverse {s₁ ready₁ s₂ ready₂ : Store}
    {destination₁ indices₁ source₁ destination₂ indices₂ source₂ : Buffer}
    (hgather : Launchable .gather t destination₁ indices₁ source₁ n block g₁ ready₁)
    (hready₁ : exec (do destination₁.acquire; source₁.acquire; indices₁.acquire) s₁ =
      (.ok (), ready₁))
    (hscatter : Launchable .scatter t destination₂ indices₂ source₂ n block g₂ ready₂)
    (hready₂ : exec (do destination₂.acquire; source₂.acquire; indices₂.acquire) s₂ =
      (.ok (), ready₂))
    (hdestination : destination₁.bytes ready₁ = destination₂.bytes ready₂)
    (hsource : source₁.bytes ready₁ = source₂.bytes ready₂)
    (hindices : Permutes (indices₁.values .int32 ready₁) σ)
    (hinverse : Permutes (indices₂.values .int32 ready₂) σ.symm) :
    ∃ s₁' s₂',
      exec (launch .gather t destination₁ indices₁ source₁ n block g₁) s₁ = (.ok (), s₁') ∧
      exec (launch .scatter t destination₂ indices₂ source₂ n block g₂) s₂ = (.ok (), s₂') ∧
      destination₁.bytes s₁' = destination₂.bytes s₂' ∧
      destination₁.values t s₁' =
        addPermuted σ block (source₁.values t ready₁) (destination₁.values t ready₁) := by
  have hvalues : destination₁.values t ready₁ = destination₂.values t ready₂ :=
    congrArg (Scalar.decodeAll t) hdestination
  have hgiven : source₁.values t ready₁ = source₂.values t ready₂ :=
    congrArg (Scalar.decodeAll t) hsource
  -- each operand has the blocks that one of the launches checks
  have hlength : destination₁.numel = destination₂.numel := by
    rw [← hgather.destination_readable.length_values, hvalues,
      hscatter.destination_readable.length_values]
  have hlength' : source₁.numel = source₂.numel := by
    rw [← hgather.source_readable.length_values, hgiven, hscatter.source_readable.length_values]
  have hblocks : n * block ≤ destination₁.numel := hgather.itemized
  have hblocks' : n * block ≤ source₂.numel := hscatter.itemized
  obtain ⟨s₁', hexec₁, hbytes₁⟩ := hgather.exec_launch_of_carries hready₁ hblocks
    (hlength' ▸ hblocks') hindices
  obtain ⟨s₂', hexec₂, hbytes₂⟩ := hscatter.exec_launch_of_carries hready₂ (hlength ▸ hblocks)
    hblocks' hinverse
  refine ⟨s₁', s₂', hexec₁, hexec₂, ?_, ?_⟩
  · rw [hbytes₁, hbytes₂, hvalues, hgiven]
  · rw [Buffer.values, hbytes₁, Scalar.decodeAll_encodeAll]

/-- A store with one allocation: three integers, three more, and the indices of a cycle and of its
    inverse. -/
def threeCycle : Store :=
  let fill : Action DeviceError Unit := do
    let all ← Buffer.allocate 0 .int32 [12] false
    all.write (Scalar.encodeAll (t := .int32) [10, 20, 30, 1, 2, 3, 1, 2, 0, 2, 0, 1])
  (exec fill ⟨[Stack.new .host [.recycling 1, .metered]], [], [], [], false⟩).2

/-- All operands are ranges of one allocation, and the grids differ. -/
theorem gather_eq_scatter_inverse_threeCycle :
    ∃ s₁' s₂',
      exec (launch .gather .int32 ⟨0, 0, 12, .int32, [3]⟩ ⟨0, 24, 12, .int32, [3]⟩
        ⟨0, 12, 12, .int32, [3]⟩ 3 1 ⟨2⟩) threeCycle = (.ok (), s₁') ∧
      exec (launch .scatter .int32 ⟨0, 0, 12, .int32, [3]⟩ ⟨0, 36, 12, .int32, [3]⟩
        ⟨0, 12, 12, .int32, [3]⟩ 3 1 ⟨256⟩) threeCycle = (.ok (), s₂') ∧
      Buffer.bytes ⟨0, 0, 12, .int32, [3]⟩ s₁' = Buffer.bytes ⟨0, 0, 12, .int32, [3]⟩ s₂' ∧
      Buffer.values .int32 ⟨0, 0, 12, .int32, [3]⟩ s₁' = [12, 23, 31] := by
  have hreadable (offset : Nat) (hrange : offset + 12 ≤ 48) (haligned : offset % 4 = 0) :
      Buffer.Readable .int32 ⟨0, offset, 12, .int32, [3]⟩ threeCycle :=
    ⟨⟨_, rfl, hrange, by decide⟩, ⟨rfl, haligned, show 12 % 4 = 0 from rfl⟩⟩
  have hready (offset : Nat) : exec (do
      Buffer.acquire ⟨0, 0, 12, .int32, [3]⟩
      Buffer.acquire ⟨0, 12, 12, .int32, [3]⟩
      Buffer.acquire ⟨0, offset, 12, .int32, [3]⟩) threeCycle = (.ok (), threeCycle) := rfl
  have hgather : Launchable .gather .int32 ⟨0, 0, 12, .int32, [3]⟩ ⟨0, 24, 12, .int32, [3]⟩
      ⟨0, 12, 12, .int32, [3]⟩ 3 1 ⟨2⟩ threeCycle :=
    ⟨by decide, by decide, by decide, by decide, by decide, hreadable 0 (by decide) rfl,
      hreadable 24 (by decide) rfl, hreadable 12 (by decide) rfl, by decide, by decide, by decide⟩
  have hscatter : Launchable .scatter .int32 ⟨0, 0, 12, .int32, [3]⟩ ⟨0, 36, 12, .int32, [3]⟩
      ⟨0, 12, 12, .int32, [3]⟩ 3 1 ⟨256⟩ threeCycle :=
    ⟨by decide, by decide, by decide, by decide, by decide, hreadable 0 (by decide) rfl,
      hreadable 36 (by decide) rfl, hreadable 12 (by decide) rfl, by decide, by decide, by decide⟩
  have hindices : Permutes (Buffer.values .int32 ⟨0, 24, 12, .int32, [3]⟩ threeCycle)
      (finRotate 3) := by decide
  have hinverse : Permutes (Buffer.values .int32 ⟨0, 36, 12, .int32, [3]⟩ threeCycle)
      (finRotate 3).symm := by decide
  obtain ⟨s₁', s₂', hexec₁, hexec₂, hbytes, hvalues⟩ := gather_eq_scatter_inverse hgather
    (hready 24) hscatter (hready 36) rfl rfl hindices hinverse
  exact ⟨s₁', s₂', hexec₁, hexec₂, hbytes, hvalues.trans (by decide)⟩

end Kernel

end DeviceMemory
