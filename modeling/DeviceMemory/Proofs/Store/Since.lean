-- SUMMARY: What has become of a store since an earlier time: handles made on the way, allocations written to, and the rest as it was.
import DeviceMemory.Proofs.Store.Grants
import DeviceMemory.Proofs.Store.Triple
import Mathlib.Data.Set.Insert

/-!
# Since an earlier time

`s₀.Since written extra s` compares a store `s` with what it was at an earlier
time, `s₀`. On the way some handles were made that are still there (`extra`),
and some allocations may have been written to (`written`). The rest is as it was:

* the pools and their slots;
* the handles to every allocation, those in `extra` apart;
* the memory of every allocation that had a handle, the contents of the ones
  written to apart.

Allocators may have granted and parked blocks on the way. An operation that made
handles and dropped them again leaves `extra` as it found it, so a failure that
cleans up shows in the same relation as the work before it.
-/

namespace DeviceMemory.Store

/-- What has become of a store since it was `s₀`. -/
structure Since (s₀ : Store) (written : Set AllocationId) (extra : Multiset AllocationId)
    (s : Store) : Prop where
  pools : s.pools = s₀.pools
  handles : ∀ id, s.handles id = s₀.handles id + extra.count id
  /-- What had lost its last handle got none. -/
  known : ∀ id ∈ extra, 0 < s₀.handles id ∨ s₀.allocations.length ≤ id
  made : ∀ {id : AllocationId} {a : Allocation}, s₀.allocations[id]? = some a →
    ∃ a', s.allocations[id]? = some a' ∧ a'.allocator = a.allocator ∧ a'.size = a.size
  memory : ∀ {id : AllocationId} {block : Block}, 0 < s₀.handles id → s₀.block? id = some block →
    ∃ block', s.block? id = some block' ∧ block'.tag = block.tag ∧
      (id ∉ written → block' = block)

/-- Whether an allocation has a handle that was made since or was there before. -/
def Reaches (s₀ : Store) (extra : Multiset AllocationId) (id : AllocationId) : Prop :=
  id ∈ extra ∨ 0 < s₀.handles id

theorem Reaches.cons {s₀ : Store} {extra : Multiset AllocationId} {id : AllocationId}
    (h : s₀.Reaches extra id) (i : AllocationId) : s₀.Reaches (i ::ₘ extra) id :=
  h.imp Multiset.mem_cons_of_mem fun hpos => hpos

namespace Since

variable {s₀ s s' : Store} {written : Set AllocationId} {extra extra' : Multiset AllocationId}
  {id : AllocationId}

theorem refl (s : Store) : s.Since written 0 s where
  pools := rfl
  handles _ := rfl
  known _ hid := absurd hid (Multiset.notMem_zero _)
  made ha := ⟨_, ha, rfl, rfl⟩
  memory _ hblock := ⟨_, hblock, rfl, fun _ => rfl⟩

/-- What had no handle at the earlier time may be written to. -/
theorem unwritten {written' : Set AllocationId} (hs : s₀.Since written extra s)
    (hnew : ∀ i ∈ written, 0 < s₀.handles i → i ∈ written') : s₀.Since written' extra s where
  pools := hs.pools
  handles := hs.handles
  known := hs.known
  made := hs.made
  memory {i block} hi hblock := by
    obtain ⟨block', hblock', htag, hsame⟩ := hs.memory hi hblock
    exact ⟨block', hblock', htag, fun hnot => hsame fun hmem => hnot (hnew i hmem hi)⟩

theorem mono {written' : Set AllocationId} (hs : s₀.Since written extra s)
    (hle : written ⊆ written') : s₀.Since written' extra s :=
  hs.unwritten fun _ hi _ => hle hi

/-- Allocators, the journal and a kept trap are not compared. -/
theorem congr (hs : s₀.Since written extra s) (hpools : s'.pools = s.pools)
    (hallocations : s'.allocations = s.allocations) : s₀.Since written extra s' := by
  refine ⟨hpools.trans hs.pools, fun i => ?_, hs.known, fun ha => ?_, fun hi hblock => ?_⟩
  · rw [← hs.handles i, Store.handles, Store.handles, hallocations]
  · rw [hallocations]
    exact hs.made ha
  · rw [Store.block?, hallocations]
    exact hs.memory hi hblock

theorem length_le (hs : s₀.Since written extra s) :
    s₀.allocations.length ≤ s.allocations.length := by
  by_contra hlt
  have hsome := List.getElem?_eq_getElem (Nat.lt_of_not_le hlt)
  obtain ⟨a', ha', -⟩ := hs.made hsome
  rw [List.getElem?_eq_none (Nat.le_refl _)] at ha'
  cases ha'

theorem handles_pos (hs : s₀.Since written extra s) (hid : s₀.Reaches extra id) :
    0 < s.handles id := by
  rw [hs.handles id]
  rcases hid with hmem | hpos
  · exact Nat.lt_of_lt_of_le (Multiset.count_pos.mpr hmem) (Nat.le_add_left ..)
  · exact Nat.lt_of_lt_of_le hpos (Nat.le_add_right ..)

/-! ## Allocations -/

/-- A new allocation is held by one handle. -/
theorem addAllocation (hs : s₀.Since written extra s) (allocator : AllocatorId) (size : Nat)
    (zeroed : Bool) :
    s₀.Since written (s.allocations.length ::ₘ extra)
      (s.addAllocation allocator size zeroed).2 where
  pools := hs.pools
  handles i := by
    have hold := hs.handles i
    rw [Multiset.count_cons]
    simp only [Store.handles, Store.addAllocation] at hold ⊢
    by_cases hi : i = s.allocations.length
    · subst hi
      rw [List.getElem?_eq_none (Nat.le_refl _), Option.map_none, Option.getD_none] at hold
      rw [List.getElem?_concat_length, if_pos rfl, Option.map_some, Option.getD_some,
        ← Nat.add_assoc, ← hold]
    · rw [if_neg hi, Nat.add_zero, ← hold]
      rcases Nat.lt_or_gt_of_ne hi with hlt | hgt
      · rw [List.getElem?_append_left hlt]
      · rw [List.getElem?_eq_none (Nat.le_of_lt hgt), List.getElem?_eq_none (by simp; omega)]
  known i hi := by
    rcases Multiset.mem_cons.mp hi with rfl | hi
    · exact .inr hs.length_le
    · exact hs.known i hi
  made ha := by
    obtain ⟨a', ha', hmade⟩ := hs.made ha
    have hlt := (List.getElem?_eq_some_iff.mp ha').1
    exact ⟨a', (List.getElem?_append_left hlt).trans ha', hmade⟩
  memory hi hblock := by
    obtain ⟨block', hblock', hsame⟩ := hs.memory hi hblock
    obtain ⟨a, ha, hab⟩ := Option.bind_eq_some_iff.mp hblock'
    have hlt := (List.getElem?_eq_some_iff.mp ha).1
    refine ⟨block', ?_, hsame⟩
    rw [Store.block?, Store.addAllocation, List.getElem?_append_left hlt, ha, Option.bind_some, hab]

theorem block?_setAllocation {a : Allocation} (ha : s.allocations[id]? = some a)
    (a' : Allocation) (i : AllocationId) :
    (s.setAllocation id a').block? i = if i = id then a'.block else s.block? i := by
  have hlt : id < s.allocations.length := (List.getElem?_eq_some_iff.mp ha).1
  simp only [Store.block?, Store.setAllocation]
  split
  next hi => rw [hi, List.getElem?_set_self hlt, Option.bind_some]
  next hi => rw [List.getElem?_set_ne (Ne.symm hi)]

/-- An allocation may change its handles as `extra` says, and its memory if no one had any
    there before or its contents are written. -/
theorem setAllocation {written' : Set AllocationId} {a a' : Allocation}
    (hs : s₀.Since written extra s) (ha : s.allocations[id]? = some a)
    (hmade : a'.allocator = a.allocator ∧ a'.size = a.size) (hle : written ⊆ written')
    (hknown : ∀ i ∈ extra', 0 < s₀.handles i ∨ s₀.allocations.length ≤ i)
    (hhandles : ∀ i, (if i = id then a'.handles else s.handles i) =
      s₀.handles i + extra'.count i)
    (hmemory : 0 < s₀.handles id → ∀ block, a.block = some block →
      ∃ block', a'.block = some block' ∧ block'.tag = block.tag ∧
        (id ∉ written' → block' = block)) :
    s₀.Since written' extra' (s.setAllocation id a') where
  pools := hs.pools
  handles i := (handles_setAllocation ha a' i).trans (hhandles i)
  known := hknown
  made {i a₀} hi := by
    obtain ⟨a₁, ha₁, hmade₁⟩ := hs.made hi
    have hlt : id < s.allocations.length := (List.getElem?_eq_some_iff.mp ha).1
    by_cases hid : i = id
    · subst hid
      cases ha.symm.trans ha₁
      exact ⟨a', List.getElem?_set_self hlt, hmade.1.trans hmade₁.1, hmade.2.trans hmade₁.2⟩
    · exact ⟨a₁, (List.getElem?_set_ne (Ne.symm hid)).trans ha₁, hmade₁⟩
  memory {i block} hi hblock := by
    obtain ⟨block₁, hblock₁, htag₁, hsame₁⟩ := hs.memory hi hblock
    rw [block?_setAllocation ha]
    split
    next hid =>
      subst hid
      rw [Store.block?, ha, Option.bind_some] at hblock₁
      obtain ⟨block', hblock', htag, hsame⟩ := hmemory hi block₁ hblock₁
      exact ⟨block', hblock', htag.trans htag₁, fun hnot =>
        (hsame hnot).trans (hsame₁ fun hmem => hnot (hle hmem))⟩
    next => exact ⟨block₁, hblock₁, htag₁, fun hnot => hsame₁ fun hmem => hnot (hle hmem)⟩

theorem handles_of_getElem? (hs : s₀.Since written extra s) {a a' : Allocation}
    (ha : s.allocations[id]? = some a) (hsame : a'.handles = a.handles) (i : AllocationId) :
    (if i = id then a'.handles else s.handles i) = s₀.handles i + extra.count i := by
  rw [← hs.handles i, hsame]
  split
  next hi => rw [hi, handles_eq ha]
  next => rfl

/-- Memory on first use is the first that its allocation has. -/
theorem allocate_ends (hs : s₀.Since written extra s) (id : AllocationId) :
    Ends (fun _ => s₀.Since written extra) (s₀.Since written extra) (s.allocate id) := by
  cases ha : s.allocations[id]? with
  | none =>
    simp only [allocate, ha]
    trivial
  | some a =>
    simp only [allocate, ha]
    split
    next => exact hs
    next hnone =>
      have hpools := pools_alloc a.allocator a.size a.zeroed s
      have hallocations := allocations_alloc a.allocator a.size a.zeroed s
      rcases hgrant : s.alloc a.allocator a.size a.zeroed with ⟨(fault | block), s'⟩
      · rw [hgrant] at hpools hallocations
        cases fault with
        | error cause => exact hs.congr hpools hallocations
        | trap => trivial
      · rw [hgrant] at hpools hallocations
        have hs' : s₀.Since written extra s' := hs.congr hpools hallocations
        have ha' : s'.allocations[id]? = some a := hallocations ▸ ha
        refine hs'.setAllocation ha' ⟨rfl, rfl⟩ subset_rfl hs.known
          (hs'.handles_of_getElem? ha' rfl) fun _ block₀ hblock₀ => ?_
        rw [hnone] at hblock₀
        cases hblock₀

/-- Memory changes its contents. -/
theorem changeBlock {a : Allocation} {block block' : Block} (hs : s₀.Since written extra s)
    (ha : s.allocations[id]? = some a) (hblock : a.block = some block)
    (htag : block'.tag = block.tag) :
    s₀.Since (insert id written) extra (s.setAllocation id { a with block := some block' }) := by
  refine hs.setAllocation ha ⟨rfl, rfl⟩ (Set.subset_insert ..) hs.known
    (hs.handles_of_getElem? ha rfl) fun _ block₀ hblock₀ => ?_
  cases hblock.symm.trans hblock₀
  exact ⟨block', rfl, htag, fun hnot => absurd (Set.mem_insert ..) hnot⟩

theorem addHandle (hs : s₀.Since written extra s) (hid : s₀.Reaches extra id) :
    s₀.Since written (id ::ₘ extra) (s.addHandle id) := by
  obtain ⟨a, ha, -⟩ := exists_of_handles_pos (hs.handles_pos hid)
  rw [addHandle_eq ha]
  refine hs.setAllocation ha ⟨rfl, rfl⟩ subset_rfl ?_ ?_ fun _ block hblock =>
    ⟨block, hblock, rfl, fun _ => rfl⟩
  · intro i hi
    rcases Multiset.mem_cons.mp hi with rfl | hi
    · exact hid.elim (hs.known i) .inl
    · exact hs.known i hi
  · intro i
    have hold := hs.handles_of_getElem? ha rfl i
    rw [Multiset.count_cons]
    split at hold
    next hi =>
      rw [if_pos hi, if_pos hi]
      simp only
      omega
    next hi =>
      rw [if_neg hi, if_neg hi]
      omega

/-- A handle made since is dropped. Where it was the last one, there was none before. -/
theorem dropHandle (hs : s₀.Since written (id ::ₘ extra) s) :
    s₀.Since written extra (s.dropHandle id) := by
  obtain ⟨a, ha, -⟩ := exists_of_handles_pos
    (hs.handles_pos (.inl (Multiset.mem_cons_self id extra)))
  have hknown : ∀ i ∈ extra, 0 < s₀.handles i ∨ s₀.allocations.length ≤ i :=
    fun i hi => hs.known i (Multiset.mem_cons_of_mem hi)
  have hhandles (i : AllocationId) :
      (if i = id then a.handles - 1 else s.handles i) = s₀.handles i + extra.count i := by
    have hold := hs.handles_of_getElem? ha rfl i
    rw [Multiset.count_cons] at hold
    split at hold
    next hi =>
      rw [if_pos hi]
      omega
    next hi =>
      rw [if_neg hi]
      exact hold
  simp only [Store.dropHandle, ha]
  split
  next =>
    exact hs.setAllocation ha ⟨rfl, rfl⟩ subset_rfl hknown hhandles fun _ block hblock =>
      ⟨block, hblock, rfl, fun _ => rfl⟩
  next hlast =>
    have hone : a.handles - 1 = 0 := by omega
    have hleft : s₀.Since written extra
        (s.setAllocation id { a with handles := 0, block := none }) := by
      refine hs.setAllocation ha ⟨rfl, rfl⟩ subset_rfl hknown (fun i => ?_) fun hid => ?_
      · rw [← hhandles i, hone]
      · have hzero := hhandles id
        rw [if_pos rfl] at hzero
        omega
    split
    next => exact hleft
    next block hblock =>
      refine hleft.congr (pools_free ..) ?_
      simp only [Store.free, giveBack]
      split <;> rfl

theorem record (hs : s₀.Since written extra s) (event : Event) :
    s₀.Since written extra (s.record event) :=
  hs.congr rfl rfl

end Since

/-! ## A handle for a while -/

variable {s : Store} {A : AllocationId}

theorem handles_addHandle (hA : 0 < s.handles A) (i : AllocationId) :
    (s.addHandle A).handles i = s.handles i + if i = A then 1 else 0 := by
  have hsince : s.Since ∅ (A ::ₘ 0) (s.addHandle A) := (Since.refl s).addHandle (.inr hA)
  rw [hsince.handles i, Multiset.count_cons, Multiset.count_zero, Nat.zero_add]

theorem block?_addHandle (A i : AllocationId) (s : Store) :
    (s.addHandle A).block? i = s.block? i := by
  rw [Store.block?, Store.block?, Store.addHandle, List.getElem?_modify]
  cases s.allocations[i]? with
  | none => rfl
  | some a =>
    simp only [Option.map_eq_map, Option.map_some, Option.bind_some]
    split <;> rfl

/-- A handle that is not the last one is only counted. -/
theorem allocations_dropHandle_of_lt (hA : 1 < s.handles A) :
    (s.dropHandle A).allocations =
      s.allocations.modify A fun a => { a with handles := a.handles - 1 } := by
  obtain ⟨a, ha, -⟩ := exists_of_handles_pos (Nat.zero_lt_of_lt hA)
  have hothers : 1 < a.handles := handles_eq ha ▸ hA
  rw [Store.dropHandle, ha, Entries.modify_eq_set ha]
  simp only
  rw [if_pos hothers, Store.setAllocation]

/-- A handle that was dropped again has left nothing behind. -/
theorem dropHandle_addHandle (hA : 0 < s.handles A) : (s.addHandle A).dropHandle A = s := by
  obtain ⟨a, ha, hpos⟩ := exists_of_handles_pos hA
  obtain ⟨hlt, hget⟩ := List.getElem?_eq_some_iff.mp ha
  have hadded : (s.setAllocation A { a with handles := a.handles + 1 }).allocations[A]? =
      some { a with handles := a.handles + 1 } := List.getElem?_set_self hlt
  rw [addHandle_eq ha, Store.dropHandle, hadded]
  simp only
  rw [if_pos (Nat.lt_add_of_pos_left hpos), Store.setAllocation, Store.setAllocation,
    List.set_set, Nat.add_sub_cancel]
  subst hget
  rw [List.set_getElem_self]

end DeviceMemory.Store
