-- SUMMARY: When a store balances: every handle counted, every granted block in one place, and the law of each operation.
import DeviceMemory.Pool
import DeviceMemory.Proofs.Allocator.Ledger
import DeviceMemory.Proofs.Store.Entries
import Mathlib.Algebra.Group.Pi.Basic

/-!
# Balanced stores

Handles, pools and blocks are counted against what their users hold. `Holdings`
is what is in the hands of the users of a store, and `Store.Balanced s h` says
that the store agrees with it:

* an allocation has as many handles as users hold and pools retain;
* a pool has as many handles as users hold;
* an allocation without a handle has no memory;
* an allocator owes exactly the blocks of its allocations and those in the hands
  of users.

The law of an operation names what it takes from the holdings and what it adds.
All that the law does not name is a frame, held by others.
-/

namespace DeviceMemory

/-! ## Slots as handles -/

/-- The handle that a slot is, if it is one. -/
def Slot.handle? : Slot → Option AllocationId
  | .held _ => none
  | .retained id => some id

/-- The handles that some slots are. -/
def retainedIn (slots : List (PoolKey × Slot)) : Multiset AllocationId :=
  slots.filterMap (·.2.handle?)

@[simp] theorem retainedIn_nil : retainedIn [] = 0 := rfl

@[simp] theorem retainedIn_append (slots slots' : List (PoolKey × Slot)) :
    retainedIn (slots ++ slots') = retainedIn slots + retainedIn slots' := by
  simp [retainedIn]

theorem mem_retainedIn {slots : List (PoolKey × Slot)} {id : AllocationId} :
    id ∈ retainedIn slots ↔ ∃ entry ∈ slots, entry.2 = .retained id := by
  simp only [retainedIn, Multiset.mem_coe, List.mem_filterMap]
  refine exists_congr fun entry => and_congr_right fun _ => ?_
  cases entry.2 <;> simp [Slot.handle?]

/-! ## Holdings -/

/-- What the users of a store hold: handles to allocations and to pools, and blocks
    of each allocator. -/
@[ext] structure Holdings where
  handles : Multiset AllocationId
  pools : Multiset PoolId
  blocks : AllocatorId → Multiset Tag

namespace Holdings

instance : Zero Holdings := ⟨⟨0, 0, 0⟩⟩

instance : Add Holdings :=
  ⟨fun h k => ⟨h.handles + k.handles, h.pools + k.pools, h.blocks + k.blocks⟩⟩

@[simp] theorem handles_zero : (0 : Holdings).handles = 0 := rfl

@[simp] theorem pools_zero : (0 : Holdings).pools = 0 := rfl

@[simp] theorem blocks_zero : (0 : Holdings).blocks = 0 := rfl

@[simp] theorem handles_add (h k : Holdings) : (h + k).handles = h.handles + k.handles := rfl

@[simp] theorem pools_add (h k : Holdings) : (h + k).pools = h.pools + k.pools := rfl

@[simp] theorem blocks_add (h k : Holdings) : (h + k).blocks = h.blocks + k.blocks := rfl

instance : AddCommMonoid Holdings where
  add_assoc h k l := by ext1 <;> simp [add_assoc]
  zero_add h := by ext1 <;> simp
  add_zero h := by ext1 <;> simp
  add_comm h k := by ext1 <;> simp [add_comm]
  nsmul := nsmulRec

/-- A handle to an allocation. -/
def handle (id : AllocationId) : Holdings := ⟨{id}, 0, 0⟩

/-- A handle to a pool. -/
def pool (id : PoolId) : Holdings := ⟨0, {id}, 0⟩

/-- A block of an allocator. -/
def block (id : AllocatorId) (t : Tag) : Holdings := ⟨0, 0, Pi.single id {t}⟩

/-- The handles that some slots are. -/
def slots (slots : List (PoolKey × Slot)) : Holdings := ⟨retainedIn slots, 0, 0⟩

@[simp] theorem handles_handle (id : AllocationId) : (handle id).handles = {id} := rfl

@[simp] theorem pools_handle (id : AllocationId) : (handle id).pools = 0 := rfl

@[simp] theorem blocks_handle (id : AllocationId) : (handle id).blocks = 0 := rfl

@[simp] theorem handles_pool (id : PoolId) : (pool id).handles = 0 := rfl

@[simp] theorem pools_pool (id : PoolId) : (pool id).pools = {id} := rfl

@[simp] theorem blocks_pool (id : PoolId) : (pool id).blocks = 0 := rfl

@[simp] theorem handles_block (id : AllocatorId) (t : Tag) : (block id t).handles = 0 := rfl

@[simp] theorem pools_block (id : AllocatorId) (t : Tag) : (block id t).pools = 0 := rfl

@[simp] theorem handles_slots (slots : List (PoolKey × Slot)) :
    (Holdings.slots slots).handles = retainedIn slots := rfl

@[simp] theorem pools_slots (slots : List (PoolKey × Slot)) : (Holdings.slots slots).pools = 0 := rfl

@[simp] theorem blocks_slots (slots : List (PoolKey × Slot)) :
    (Holdings.slots slots).blocks = 0 := rfl

@[simp] theorem slots_nil : slots [] = 0 := rfl

theorem slots_append (left right : List (PoolKey × Slot)) :
    slots (left ++ right) = slots left + slots right := by
  ext1 <;> simp

@[simp] theorem slots_retained (key : PoolKey) (id : AllocationId) :
    slots [(key, .retained id)] = handle id := rfl

@[simp] theorem slots_held (key : PoolKey) (id : AllocationId) : slots [(key, .held id)] = 0 := rfl

theorem blocks_block (id i : AllocatorId) (t : Tag) :
    (block id t).blocks i = if i = id then {t} else 0 := by
  simp [block, Pi.single_apply]

end Holdings

/-! ## What a store counts -/

/-- The block of an allocation, if an allocator granted it. -/
def Allocation.owes (id : AllocatorId) (a : Allocation) : Multiset Tag :=
  match a.block with
  | some b => if a.allocator = id then {b.tag} else 0
  | none => 0

namespace Store

open Entries

/-- The handles that retained slots are. -/
def retained (s : Store) : Multiset AllocationId :=
  (s.pools.map fun p => retainedIn p.slots).sum

/-- The blocks that allocations have of an allocator. -/
def granted (id : AllocatorId) (s : Store) : Multiset Tag :=
  (s.allocations.map (Allocation.owes id)).sum

def sizeOf (s : Store) (id : AllocationId) : Nat :=
  (s.allocations[id]?.map Allocation.size).getD 0

def poolHandles (id : PoolId) (s : Store) : Nat :=
  (s.pools[id]?.map Pool.handles).getD 0

/-- The allocator owes these blocks. An unknown one owes none. -/
def Accounts (id : AllocatorId) (held : Multiset Tag) (s : Store) : Prop :=
  match s.allocators[id]? with
  | some stack => stack.Accounts held
  | none => held = 0

/-- The store agrees with what its users hold. -/
structure Balanced (s : Store) (h : Holdings) : Prop where
  handles : ∀ id, s.handles id = (h.handles + s.retained).count id
  poolHandles : ∀ id, s.poolHandles id = h.pools.count id
  /-- A pool that no one holds has no slots. -/
  deserted : ∀ p ∈ s.pools, p.handles = 0 → p.slots = []
  keys : ∀ p ∈ s.pools, (p.slots.map Prod.fst).Nodup
  /-- An allocation that no one holds has no memory. -/
  unused : ∀ a ∈ s.allocations, a.handles = 0 → a.block = none
  sizes : ∀ a ∈ s.allocations, ∀ b, a.block = some b → b.size = a.size
  /-- No allocator trapped when memory went back to it. -/
  untrapped : s.trapped = false
  ledger : ∀ id, s.Accounts id (s.granted id + h.blocks id)

theorem balanced_empty : empty.Balanced 0 where
  handles _ := rfl
  poolHandles _ := rfl
  deserted _ hp := absurd hp List.not_mem_nil
  keys _ hp := absurd hp List.not_mem_nil
  unused _ ha := absurd ha List.not_mem_nil
  sizes _ ha := absurd ha List.not_mem_nil
  untrapped := rfl
  ledger _ := rfl

variable {s s' : Store} {h h' : Holdings}

/-! ## Allocators -/

theorem accounts_iff {id : AllocatorId} {stack : Stack} (hid : s.allocators[id]? = some stack)
    (held : Multiset Tag) : s.Accounts id held ↔ stack.Accounts held := by
  rw [Accounts, hid]

theorem accounts_congr {id : AllocatorId} (hid : s'.allocators[id]? = s.allocators[id]?)
    (held : Multiset Tag) : s'.Accounts id held ↔ s.Accounts id held := by
  rw [Accounts, Accounts, hid]

/-- A new allocator owes nothing. -/
theorem Balanced.addStack (hs : s.Balanced h) (base : Base) (layers : List Layer) :
    (s.addStack (.new base layers)).2.Balanced h := by
  refine ⟨hs.handles, hs.poolHandles, hs.deserted, hs.keys, hs.unused, hs.sizes, hs.untrapped, ?_⟩
  intro id
  by_cases hid : id = s.allocators.length
  · have hnone : s.allocators[id]? = none := List.getElem?_eq_none (Nat.le_of_eq hid.symm)
    have hzero : s.granted id + h.blocks id = 0 := by
      simpa only [Accounts, hnone] using hs.ledger id
    have hnew : (s.allocators ++ [Stack.new base layers])[id]? = some (.new base layers) := by
      rw [hid, List.getElem?_concat_length]
    refine (accounts_iff hnew _).mpr ?_
    exact (congrArg (Stack.new base layers).Accounts hzero).mpr (Stack.accounts_new base layers)
  · have hsame : (s.allocators ++ [Stack.new base layers])[id]? = s.allocators[id]? := by
      rcases Nat.lt_or_gt_of_ne hid with hlt | hgt
      · exact List.getElem?_append_left hlt
      · rw [List.getElem?_eq_none (Nat.le_of_lt hgt), List.getElem?_eq_none (by simp; omega)]
    exact (accounts_congr hsame _).mpr (hs.ledger id)

/-- An allocator may change, and blocks of it may change hands, if its books follow. -/
theorem Balanced.setAllocator {id : AllocatorId} {stack stack' : Stack} (hs : s.Balanced h)
    (hid : s.allocators[id]? = some stack) (hhandles : h'.handles = h.handles)
    (hpools : h'.pools = h.pools) (hother : ∀ i, i ≠ id → h'.blocks i = h.blocks i)
    (haccounts : stack'.Accounts (s.granted id + h'.blocks id)) :
    { s with allocators := s.allocators.set id stack' }.Balanced h' := by
  refine ⟨fun i => ?_, fun i => ?_, hs.deserted, hs.keys, hs.unused, hs.sizes, hs.untrapped,
    fun i => ?_⟩
  · rw [hhandles]
    exact hs.handles i
  · rw [hpools]
    exact hs.poolHandles i
  · have hlt : id < s.allocators.length := (List.getElem?_eq_some_iff.mp hid).1
    by_cases hi : i = id
    · subst hi
      exact (accounts_iff (List.getElem?_set_self hlt) _).mpr haccounts
    · have hold := hs.ledger i
      rw [← hother i hi] at hold
      exact (accounts_congr (List.getElem?_set_ne (Ne.symm hi)) _).mpr hold

theorem Balanced.alloc_grant {id : AllocatorId} {size : Nat} {zeroed : Bool} {b : Block}
    (hs : s.Balanced h) (halloc : s.alloc id size zeroed = (.ok b, s')) :
    b.size = size ∧ s'.Balanced (h + .block id b.tag) := by
  simp only [alloc] at halloc
  split at halloc
  next => cases halloc
  next stack hid =>
    rcases hstack : stack.alloc size zeroed with ⟨answer, stack'⟩
    simp only [hstack, Prod.mk.injEq] at halloc
    obtain ⟨rfl, rfl⟩ := halloc
    obtain ⟨hsize, haccounts⟩ := ((accounts_iff hid _).mp (hs.ledger id)).grant hstack
    refine ⟨hsize, hs.setAllocator hid (by simp) (by simp) ?_ ?_⟩
    · intro i hi
      simp [Holdings.blocks_block, hi]
    · have hblocks : s.granted id + (h + .block id b.tag).blocks id =
          b.tag ::ₘ (s.granted id + h.blocks id) := by
        rw [Holdings.blocks_add, Pi.add_apply, Holdings.blocks_block, if_pos rfl, ← add_assoc,
          add_comm, Multiset.singleton_add]
      rwa [hblocks]

theorem Balanced.alloc_refusal {id : AllocatorId} {size : Nat} {zeroed : Bool}
    {cause : DeviceError} (hs : s.Balanced h)
    (halloc : s.alloc id size zeroed = (.error (.error cause), s')) : s'.Balanced h := by
  simp only [alloc] at halloc
  split at halloc
  next => cases halloc
  next stack hid =>
    rcases hstack : stack.alloc size zeroed with ⟨answer, stack'⟩
    simp only [hstack, Prod.mk.injEq] at halloc
    obtain ⟨rfl, rfl⟩ := halloc
    exact hs.setAllocator hid rfl rfl (fun _ _ => rfl)
      (((accounts_iff hid _).mp (hs.ledger id)).refusal hstack)

/-- A block goes back to the allocator that granted it. -/
theorem Balanced.free {id : AllocatorId} {b : Block} (hs : s.Balanced (h + .block id b.tag)) :
    (s.free id b).Balanced h := by
  have hblocks : s.granted id + (h + .block id b.tag).blocks id =
      b.tag ::ₘ (s.granted id + h.blocks id) := by
    rw [Holdings.blocks_add, Pi.add_apply, Holdings.blocks_block, if_pos rfl, ← add_assoc,
      add_comm, Multiset.singleton_add]
  have howed := hs.ledger id
  rw [hblocks] at howed
  cases hid : s.allocators[id]? with
  | none =>
    rw [Accounts, hid] at howed
    exact absurd howed (Multiset.cons_ne_zero)
  | some stack =>
    obtain ⟨stack', hfree, haccounts⟩ := ((accounts_iff hid _).mp howed).free
    simp only [Store.free, giveBack, hid, Option.map_some, hfree]
    refine hs.setAllocator hid (by simp) (by simp) ?_ haccounts
    intro i hi
    simp [Holdings.blocks_block, hi]

theorem Balanced.trim (hs : s.Balanced h) (id : AllocatorId) : (s.trim id).Balanced h := by
  cases hid : s.allocators[id]? with
  | none => simpa only [Store.trim, giveBack, hid, Option.map_none] using hs
  | some stack =>
    obtain ⟨stack', htrim, haccounts⟩ := ((accounts_iff hid _).mp (hs.ledger id)).trim
    simp only [Store.trim, giveBack, hid, Option.map_some, htrim]
    exact hs.setAllocator hid rfl rfl (fun _ _ => rfl) haccounts

/-! ## Allocations -/

theorem handles_eq {id : AllocationId} {a : Allocation} (ha : s.allocations[id]? = some a) :
    s.handles id = a.handles := by
  rw [Store.handles, ha]
  rfl

theorem exists_of_handles_pos {id : AllocationId} (hid : 0 < s.handles id) :
    ∃ a, s.allocations[id]? = some a ∧ 0 < a.handles := by
  cases ha : s.allocations[id]? with
  | none => simp [Store.handles, ha] at hid
  | some a => exact ⟨a, rfl, handles_eq ha ▸ hid⟩

/-- A handle that a user holds is counted. -/
theorem Balanced.handles_pos {id : AllocationId} (hs : s.Balanced h) (hid : id ∈ h.handles) :
    0 < s.handles id := by
  rw [hs.handles id, Multiset.count_pos]
  exact Multiset.mem_add.mpr (.inl hid)

theorem handles_setAllocation {id : AllocationId} {a : Allocation}
    (ha : s.allocations[id]? = some a) (a' : Allocation) (i : AllocationId) :
    (s.setAllocation id a').handles i = if i = id then a'.handles else s.handles i := by
  have hlt : id < s.allocations.length := (List.getElem?_eq_some_iff.mp ha).1
  simp only [Store.handles, setAllocation]
  split
  next hi => rw [hi, List.getElem?_set_self hlt, Option.map_some, Option.getD_some]
  next hi => rw [List.getElem?_set_ne (Ne.symm hi)]

theorem addHandle_eq {id : AllocationId} {a : Allocation} (ha : s.allocations[id]? = some a) :
    s.addHandle id = s.setAllocation id { a with handles := a.handles + 1 } := by
  rw [Store.addHandle, Store.setAllocation, modify_eq_set ha]

/-- A new allocation has no memory yet. -/
theorem Balanced.addAllocation (hs : s.Balanced h) (allocator : AllocatorId) (size : Nat)
    (zeroed : Bool) :
    (s.addAllocation allocator size zeroed).2.Balanced (h + .handle s.allocations.length) := by
  refine ⟨fun i => ?_, fun i => ?_, hs.deserted, hs.keys, ?_, ?_, hs.untrapped, fun i => ?_⟩
  · have hold := hs.handles i
    have hretained : (s.addAllocation allocator size zeroed).2.retained = s.retained := rfl
    rw [hretained, Holdings.handles_add, Holdings.handles_handle, add_right_comm,
      Multiset.count_add, ← hold]
    simp only [Store.handles, Store.addAllocation]
    by_cases hi : i = s.allocations.length
    · subst hi
      rw [List.getElem?_concat_length, List.getElem?_eq_none (Nat.le_refl _)]
      simp
    · rw [Multiset.count_eq_zero_of_notMem (by simpa using hi), Nat.add_zero]
      rcases Nat.lt_or_gt_of_ne hi with hlt | hgt
      · rw [List.getElem?_append_left hlt]
      · rw [List.getElem?_eq_none (Nat.le_of_lt hgt), List.getElem?_eq_none (by simp; omega)]
  · rw [Holdings.pools_add, Holdings.pools_handle, add_zero]
    exact hs.poolHandles i
  · intro a ha
    rcases List.mem_append.mp ha with ha | ha
    · exact hs.unused a ha
    · intro _
      rw [List.mem_singleton.mp ha]
  · intro a ha b hb
    rcases List.mem_append.mp ha with ha | ha
    · exact hs.sizes a ha b hb
    · rw [List.mem_singleton.mp ha] at hb
      cases hb
  · have hgranted : (s.addAllocation allocator size zeroed).2.granted i = s.granted i := by
      simp [granted, Store.addAllocation, Allocation.owes]
    rw [hgranted, Holdings.blocks_add, Holdings.blocks_handle, add_zero]
    exact (accounts_congr rfl _).mpr (hs.ledger i)

/-- An allocation may change if its handles and its block go where the holdings say. -/
theorem Balanced.setAllocation {id : AllocationId} {a a' : Allocation} (hs : s.Balanced h)
    (ha : s.allocations[id]? = some a) (hpools : h'.pools = h.pools)
    (hhandles : ∀ i, (h'.handles + s.retained).count i =
      if i = id then a'.handles else s.handles i)
    (hblocks : ∀ i, a'.owes i + h'.blocks i = a.owes i + h.blocks i)
    (hunused : a'.handles = 0 → a'.block = none)
    (hsizes : ∀ b, a'.block = some b → b.size = a'.size) :
    (s.setAllocation id a').Balanced h' := by
  refine ⟨fun i => ?_, fun i => ?_, hs.deserted, hs.keys, forall_mem_set hunused hs.unused,
    forall_mem_set hsizes hs.sizes, hs.untrapped, fun i => ?_⟩
  · rw [handles_setAllocation ha]
    exact (hhandles i).symm
  · rw [hpools]
    exact hs.poolHandles i
  · have hsum : (s.setAllocation id a').granted i + a.owes i = s.granted i + a'.owes i :=
      sum_map_set (Allocation.owes i) ha a'
    have hsame : (s.setAllocation id a').granted i + h'.blocks i = s.granted i + h.blocks i := by
      apply add_right_cancel (b := a.owes i)
      rw [add_right_comm, hsum, add_assoc, hblocks, add_right_comm, add_assoc]
    rw [hsame]
    exact (accounts_congr rfl _).mpr (hs.ledger i)

/-- A block in the hands of a user becomes the memory of an allocation. -/
theorem Balanced.putBlock {id : AllocationId} {a : Allocation} {b : Block}
    (hs : s.Balanced (h + .block a.allocator b.tag)) (ha : s.allocations[id]? = some a)
    (hlive : 0 < a.handles) (hnone : a.block = none) (hsize : b.size = a.size) :
    (s.setAllocation id { a with block := some b }).Balanced h := by
  refine hs.setAllocation ha (by simp) ?_ ?_ ?_ ?_
  · intro i
    have hold := hs.handles i
    rw [Holdings.handles_add, Holdings.handles_block, add_zero] at hold
    rw [← hold]
    split
    next hi => rw [hi, handles_eq ha]
    next => rfl
  · intro i
    rw [Holdings.blocks_add, Pi.add_apply, Holdings.blocks_block]
    simp only [Allocation.owes, hnone, zero_add, eq_comm (a := i)]
    rw [add_comm]
  · intro hzero
    exact absurd hzero (Nat.ne_of_gt hlive)
  · intro b' hb'
    cases hb'
    exact hsize

/-- The memory of an allocation changes its contents. -/
theorem Balanced.changeBlock {id : AllocationId} {a : Allocation} {b b' : Block}
    (hs : s.Balanced h) (ha : s.allocations[id]? = some a) (hb : a.block = some b)
    (htag : b'.tag = b.tag) : (s.setAllocation id { a with block := some b' }).Balanced h := by
  have hmem : a ∈ s.allocations := List.mem_of_getElem? ha
  refine hs.setAllocation ha rfl ?_ ?_ ?_ ?_
  · intro i
    rw [← hs.handles i]
    split
    next hi => rw [hi, handles_eq ha]
    next => rfl
  · intro i
    simp only [Allocation.owes, hb, htag]
  · intro hzero
    have hnone := hs.unused a hmem hzero
    rw [hb] at hnone
    cases hnone
  · intro b'' hb''
    cases hb''
    have hsize : b'.size = b.size := congrArg Tag.size htag
    exact hsize.trans (hs.sizes a hmem b hb)

/-- A handle to an allocation with a handle. -/
theorem Balanced.addHandle {id : AllocationId} (hs : s.Balanced h) (hid : 0 < s.handles id) :
    (s.addHandle id).Balanced (h + .handle id) := by
  obtain ⟨a, ha, hlive⟩ := exists_of_handles_pos hid
  rw [addHandle_eq ha]
  have hmem : a ∈ s.allocations := List.mem_of_getElem? ha
  refine hs.setAllocation ha (by simp) ?_ ?_ ?_ (hs.sizes a hmem)
  · intro i
    have hold := hs.handles i
    rw [Holdings.handles_add, Holdings.handles_handle, add_right_comm, Multiset.count_add, ← hold,
      Multiset.count_singleton]
    split
    next hi => rw [hi, handles_eq ha]
    next => rfl
  · intro i
    rw [Holdings.blocks_add, Holdings.blocks_handle, add_zero]
    rfl
  · intro hzero
    cases hzero

/-- The last handle gives the memory back. -/
theorem Balanced.dropHandle {id : AllocationId} (hs : s.Balanced (h + .handle id)) :
    (s.dropHandle id).Balanced h := by
  have hpos : 0 < s.handles id := hs.handles_pos (by simp)
  obtain ⟨a, ha, hlive⟩ := exists_of_handles_pos hpos
  have hmem : a ∈ s.allocations := List.mem_of_getElem? ha
  have hcount (i : AllocationId) :
      (h.handles + s.retained).count i = if i = id then a.handles - 1 else s.handles i := by
    have hold := hs.handles i
    rw [Holdings.handles_add, Holdings.handles_handle, add_right_comm, Multiset.count_add,
      Multiset.count_singleton] at hold
    split at hold
    next hi =>
      rw [if_pos hi, ← handles_eq ha, ← hi]
      omega
    next hi =>
      rw [if_neg hi]
      omega
  simp only [Store.dropHandle, ha]
  split
  next hmore =>
    refine hs.setAllocation ha (by simp) hcount ?_ ?_ (hs.sizes a hmem)
    · intro i
      rw [Holdings.blocks_add, Holdings.blocks_handle, add_zero]
      rfl
    · intro hzero
      have hzero' : a.handles - 1 = 0 := hzero
      omega
  next hlast =>
    have hone : a.handles - 1 = 0 := by omega
    rw [hone] at hcount
    split
    next hnone =>
      refine hs.setAllocation ha (by simp) hcount ?_ (fun _ => rfl) (fun b hb => by cases hb)
      intro i
      rw [Holdings.blocks_add, Holdings.blocks_handle, add_zero]
      simp only [Allocation.owes, hnone]
    next b hb =>
      -- between the last handle and the allocator the block is in no allocation
      refine Balanced.free ?_
      refine hs.setAllocation ha (by simp) (by simpa using hcount) ?_ (fun _ => rfl)
        (fun b hb => by cases hb)
      intro i
      rw [Holdings.blocks_add h (.handle id), Holdings.blocks_handle, add_zero,
        Holdings.blocks_add, Pi.add_apply, Holdings.blocks_block]
      simp only [Allocation.owes, hb, zero_add, eq_comm (a := i)]
      rw [add_comm]

/-! ## Pools -/

theorem poolHandles_eq {id : PoolId} {p : Pool} (hp : s.pools[id]? = some p) :
    s.poolHandles id = p.handles := by
  rw [Store.poolHandles, hp]
  rfl

theorem slots_eq {id : PoolId} {p : Pool} (hp : s.pools[id]? = some p) :
    s.slots id = p.slots := by
  rw [slots, hp]
  rfl

/-- A handle that a user holds is to a pool of the store. -/
theorem Balanced.exists_pool {id : PoolId} (hs : s.Balanced h) (hid : id ∈ h.pools) :
    ∃ p, s.pools[id]? = some p ∧ 0 < p.handles := by
  have hpos : 0 < s.poolHandles id := by
    rw [hs.poolHandles id]
    exact Multiset.count_pos.mpr hid
  cases hp : s.pools[id]? with
  | none => simp [Store.poolHandles, hp] at hpos
  | some p => exact ⟨p, rfl, poolHandles_eq hp ▸ hpos⟩

/-- A slot is a handle of its own only if it is retained. -/
theorem mem_retained {id : AllocationId} :
    id ∈ s.retained ↔ ∃ p ∈ s.pools, id ∈ retainedIn p.slots := by
  rw [retained]
  generalize s.pools = pools
  induction pools with
  | nil => simp
  | cons p pools ih => simp [ih]

/-- A live slot names an allocation with a handle. -/
theorem Balanced.handles_pos_of_isLive {id : PoolId} {p : Pool} {entry : PoolKey × Slot}
    (hs : s.Balanced h) (hp : s.pools[id]? = some p) (hentry : entry ∈ p.slots)
    (hlive : entry.2.isLive s) : 0 < s.handles entry.2.allocation := by
  cases hslot : entry.2 with
  | held allocation =>
    rw [hslot] at hlive
    exact of_decide_eq_true hlive
  | retained allocation =>
    rw [Slot.allocation, hs.handles, Multiset.count_pos]
    refine Multiset.mem_add.mpr (.inr (mem_retained.mpr ⟨p, List.mem_of_getElem? hp, ?_⟩))
    exact mem_retainedIn.mpr ⟨entry, hentry, hslot⟩

theorem Balanced.addPool (hs : s.Balanced h) (allocator : AllocatorId) (retains : Bool) :
    (s.addPool allocator retains).2.Balanced (h + .pool s.pools.length) := by
  have hretained : (s.addPool allocator retains).2.retained = s.retained := by
    simp [retained, Store.addPool]
  refine ⟨fun i => ?_, fun i => ?_, ?_, ?_, hs.unused, hs.sizes, hs.untrapped,
    fun i => ?_⟩
  · rw [hretained, Holdings.handles_add, Holdings.handles_pool, add_zero]
    exact hs.handles i
  · have hold := hs.poolHandles i
    rw [Holdings.pools_add, Holdings.pools_pool, Multiset.count_add, ← hold]
    simp only [Store.poolHandles, Store.addPool]
    by_cases hi : i = s.pools.length
    · subst hi
      rw [List.getElem?_concat_length, List.getElem?_eq_none (Nat.le_refl _)]
      simp
    · rw [Multiset.count_eq_zero_of_notMem (by simpa using hi), Nat.add_zero]
      rcases Nat.lt_or_gt_of_ne hi with hlt | hgt
      · rw [List.getElem?_append_left hlt]
      · rw [List.getElem?_eq_none (Nat.le_of_lt hgt), List.getElem?_eq_none (by simp; omega)]
  · intro p hp
    rcases List.mem_append.mp hp with hp | hp
    · exact hs.deserted p hp
    · intro _
      rw [List.mem_singleton.mp hp]
  · intro p hp
    rcases List.mem_append.mp hp with hp | hp
    · exact hs.keys p hp
    · rw [List.mem_singleton.mp hp]
      exact List.nodup_nil
  · rw [Holdings.blocks_add, Holdings.blocks_pool, add_zero]
    exact (accounts_congr rfl _).mpr (hs.ledger i)

/-- A pool may change its slots and its handles if the holdings say where they go. -/
theorem Balanced.setPool {id : PoolId} {p p' : Pool} (hs : s.Balanced h)
    (hp : s.pools[id]? = some p) (hblocks : h'.blocks = h.blocks)
    (hslots : h'.handles + retainedIn p'.slots = h.handles + retainedIn p.slots)
    (hpools : ∀ i, h'.pools.count i = if i = id then p'.handles else s.poolHandles i)
    (hdeserted : p'.handles = 0 → p'.slots = []) (hkeys : (p'.slots.map Prod.fst).Nodup) :
    { s with pools := s.pools.set id p' }.Balanced h' := by
  have hlt : id < s.pools.length := (List.getElem?_eq_some_iff.mp hp).1
  have hsum : ({ s with pools := s.pools.set id p' } : Store).retained + retainedIn p.slots =
      s.retained + retainedIn p'.slots := sum_map_set (fun p : Pool => retainedIn p.slots) hp p'
  have hall : h'.handles + ({ s with pools := s.pools.set id p' } : Store).retained =
      h.handles + s.retained := by
    apply add_right_cancel (b := retainedIn p.slots)
    rw [add_assoc, hsum, add_comm s.retained, ← add_assoc, hslots]
    abel
  refine ⟨fun i => ?_, fun i => ?_, forall_mem_set hdeserted hs.deserted,
    forall_mem_set hkeys hs.keys, hs.unused, hs.sizes, hs.untrapped,
    fun i => ?_⟩
  · rw [hall]
    exact hs.handles i
  · rw [hpools]
    simp only [Store.poolHandles]
    split
    next hi => rw [hi, List.getElem?_set_self hlt, Option.map_some, Option.getD_some]
    next hi => rw [List.getElem?_set_ne (Ne.symm hi)]
  · rw [hblocks]
    exact (accounts_congr rfl _).mpr (hs.ledger i)

/-- What leaves the slots of a pool is in the hands of a user, and what enters them no
    longer is. -/
theorem Balanced.setSlots {id : PoolId} {p : Pool} {new : List (PoolKey × Slot)}
    (hs : s.Balanced h) (hp : s.pools[id]? = some p)
    (hslots : h' + .slots new = h + .slots p.slots) (hlive : 0 < p.handles ∨ new = [])
    (hkeys : (new.map Prod.fst).Nodup) : (s.setSlots id new).Balanced h' := by
  have hset : s.setSlots id new = { s with pools := s.pools.set id { p with slots := new } } := by
    rw [Store.setSlots, modify_eq_set hp]
  rw [hset]
  refine hs.setPool hp ?_ (congrArg Holdings.handles hslots) ?_ ?_ hkeys
  · simpa using congrArg Holdings.blocks hslots
  · intro i
    have hpools : h'.pools = h.pools := by simpa using congrArg Holdings.pools hslots
    rw [hpools, ← hs.poolHandles i]
    split
    next hi => rw [hi, poolHandles_eq hp]
    next => rfl
  · intro hzero
    rcases hlive with hlive | hnil
    · exact absurd hzero (Nat.ne_of_gt hlive)
    · exact hnil

theorem Balanced.dropSlot (entry : PoolKey × Slot) (hs : s.Balanced (h + .slots [entry])) :
    (s.dropSlot entry.2).Balanced h := by
  obtain ⟨key, slot⟩ := entry
  cases slot with
  | held allocation =>
    rw [Holdings.slots_held, add_zero] at hs
    exact hs
  | retained allocation => exact Balanced.dropHandle hs

/-- Slots that left their pool are dropped one after another. -/
theorem Balanced.dropSlots {slots : List (PoolKey × Slot)} (hs : s.Balanced (h + .slots slots)) :
    (slots.foldl (fun s (_, slot) => s.dropSlot slot) s).Balanced h := by
  induction slots generalizing s with
  | nil => simpa using hs
  | cons entry slots ih =>
    apply ih
    apply Balanced.dropSlot entry
    rwa [← List.singleton_append, Holdings.slots_append, add_comm (Holdings.slots [entry]),
      ← add_assoc] at hs

theorem Balanced.clearPool (hs : s.Balanced h) (id : PoolId) : (s.clearPool id).Balanced h := by
  apply Balanced.dropSlots
  cases hp : s.pools[id]? with
  | none =>
    have hset : s.setSlots id [] = s := by
      rw [Store.setSlots, List.modify_eq_self]
      exact List.getElem?_eq_none_iff.mp hp
    have hnil : s.slots id = [] := by
      rw [slots, hp]
      rfl
    rwa [hset, hnil, Holdings.slots_nil, add_zero]
  | some p =>
    rw [slots_eq hp]
    exact hs.setSlots hp (by simp) (.inr rfl) List.nodup_nil

/-- A handle to a pool that a user holds. -/
theorem Balanced.addPoolHandle {id : PoolId} (hs : s.Balanced h) (hid : id ∈ h.pools) :
    (s.addPoolHandle id).Balanced (h + .pool id) := by
  obtain ⟨p, hp, hlive⟩ := hs.exists_pool hid
  have hmem : p ∈ s.pools := List.mem_of_getElem? hp
  have hset : s.addPoolHandle id =
      { s with pools := s.pools.set id { p with handles := p.handles + 1 } } := by
    rw [Store.addPoolHandle, modify_eq_set hp]
  rw [hset]
  refine hs.setPool hp (by simp) (by simp) ?_ (fun hzero => by cases hzero) (hs.keys p hmem)
  intro i
  have hold := hs.poolHandles i
  rw [Holdings.pools_add, Holdings.pools_pool, Multiset.count_add, ← hold,
    Multiset.count_singleton]
  split
  next hi => rw [hi, poolHandles_eq hp]
  next => rfl

/-- The last handle to a pool empties it. -/
theorem Balanced.dropPoolHandle {id : PoolId} (hs : s.Balanced (h + .pool id)) :
    (s.dropPoolHandle id).Balanced h := by
  have hheld : id ∈ (h + .pool id).pools := by simp
  obtain ⟨p, hp, hlive⟩ := hs.exists_pool hheld
  have hmem : p ∈ s.pools := List.mem_of_getElem? hp
  have hlt : id < s.pools.length := (List.getElem?_eq_some_iff.mp hp).1
  have hcount (i : PoolId) : h.pools.count i = if i = id then p.handles - 1 else s.poolHandles i := by
    have hold := hs.poolHandles i
    rw [Holdings.pools_add, Holdings.pools_pool, Multiset.count_add, Multiset.count_singleton]
      at hold
    split at hold
    next hi =>
      rw [if_pos hi, ← poolHandles_eq hp, ← hi]
      omega
    next hi =>
      rw [if_neg hi]
      omega
  simp only [Store.dropPoolHandle, hp]
  split
  next hmore =>
    refine hs.setPool hp (by simp) (by simp) hcount ?_ (hs.keys p hmem)
    intro hzero
    have hzero' : p.handles - 1 = 0 := hzero
    omega
  next hlast =>
    -- the pool loses its slots and its last handle at once, so it is never deserted with slots
    have hslots : ({ s with pools := s.pools.set id { p with handles := p.handles - 1 } } :
        Store).slots id = p.slots := by
      rw [slots, List.getElem?_set_self hlt]
      rfl
    have hempty : ({ s with pools := s.pools.set id { p with handles := p.handles - 1 } } :
        Store).setSlots id [] =
          { s with pools := s.pools.set id ⟨p.allocator, p.retains, [], p.handles - 1⟩ } := by
      rw [Store.setSlots, modify_eq_set (List.getElem?_set_self hlt), List.set_set]
    rw [Store.clearPool, hslots, hempty]
    apply Balanced.dropSlots
    exact hs.setPool hp (by simp) (by simp) (by simpa using hcount) (fun _ => rfl) List.nodup_nil

/-- The journal counts nothing. -/
theorem Balanced.record (hs : s.Balanced h) (event : Event) : (s.record event).Balanced h :=
  ⟨hs.handles, hs.poolHandles, hs.deserted, hs.keys, hs.unused, hs.sizes, hs.untrapped, hs.ledger⟩

end Store

end DeviceMemory
