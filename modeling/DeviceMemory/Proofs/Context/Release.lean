-- SUMMARY: What releasing leaves of a store: no allocation gets memory, nothing is written to the journal, one pool is emptied and its allocator parks nothing.
import DeviceMemory.Proofs.Pool.Onward

/-!
# Releasing

Handles, slots and pools that are dropped, and parked blocks that are returned,
give memory back and never ask for it. `s.Released s'` says so of two stores; with
`Onward`, which keeps what is still reached, it determines the memory of every
allocation. Releasing a context empties its pool, leaves the other pools as they
are, and leaves its allocator with nothing parked.
-/

namespace DeviceMemory.Store

variable {s s' s'' : Store} {id : AllocationId} {h : Holdings}

/-- Allocations have the memory that they had or none, and the journal is the same. -/
structure Released (s s' : Store) : Prop where
  length : s'.allocations.length = s.allocations.length
  allocation : ∀ {id : AllocationId} {a' : Allocation}, s'.allocations[id]? = some a' →
    ∃ a, s.allocations[id]? = some a ∧ a'.allocator = a.allocator ∧
      ∀ block, a'.block = some block → a.block = some block
  journal : s'.journal = s.journal

namespace Released

theorem of_same (hallocations : s'.allocations = s.allocations) (hjournal : s'.journal = s.journal) :
    s.Released s' where
  length := congrArg List.length hallocations
  allocation ha := ⟨_, hallocations ▸ ha, rfl, fun _ hblock => hblock⟩
  journal := hjournal

theorem refl (s : Store) : s.Released s := of_same rfl rfl

theorem trans (hs : s.Released s') (hs' : s'.Released s'') : s.Released s'' where
  length := hs'.length.trans hs.length
  allocation ha := by
    obtain ⟨a', ha', hallocator', hblock'⟩ := hs'.allocation ha
    obtain ⟨a, ha, hallocator, hblock⟩ := hs.allocation ha'
    exact ⟨a, ha, hallocator'.trans hallocator, fun b hb => hblock b (hblock' b hb)⟩
  journal := hs'.journal.trans hs.journal

theorem setAllocation {a a' : Allocation} (ha : s.allocations[id]? = some a)
    (hallocator : a'.allocator = a.allocator)
    (hblock : ∀ block, a'.block = some block → a.block = some block) :
    s.Released (s.setAllocation id a') where
  length := List.length_set
  allocation {i a₁} hi := by
    have hlt := (List.getElem?_eq_some_iff.mp ha).1
    by_cases hid : i = id
    · subst hid
      cases (List.getElem?_set_self hlt).symm.trans hi
      exact ⟨a, ha, hallocator, hblock⟩
    · exact ⟨a₁, (List.getElem?_set_ne (Ne.symm hid)).symm.trans hi, rfl, fun _ hb => hb⟩
  journal := rfl

theorem giveBack (s : Store) (a : AllocatorId) (change : Stack → Return Stack) :
    s.Released (s.giveBack a change) := by
  unfold Store.giveBack
  split <;> exact of_same rfl rfl

theorem dropHandle (s : Store) (id : AllocationId) : s.Released (s.dropHandle id) := by
  unfold Store.dropHandle
  split
  next => exact refl s
  next a ha =>
    split
    next => exact setAllocation ha rfl fun _ hb => hb
    next =>
      have hlast : s.Released (s.setAllocation id { a with handles := 0, block := none }) :=
        setAllocation ha rfl fun _ hb => by cases hb
      split
      next => exact hlast
      next => exact hlast.trans (giveBack ..)

theorem dropSlots (s : Store) (slots : List (PoolKey × Slot)) :
    s.Released (slots.foldl (fun s (_, slot) => s.dropSlot slot) s) := by
  induction slots generalizing s with
  | nil => exact refl s
  | cons entry slots ih =>
    refine Released.trans ?_ (ih _)
    obtain ⟨key, slot⟩ := entry
    cases slot with
    | held allocation => exact refl s
    | retained allocation => exact dropHandle s allocation

theorem clearPool (s : Store) (p : PoolId) : s.Released (s.clearPool p) := by
  have hset : s.Released (s.setSlots p []) := of_same rfl rfl
  exact hset.trans (dropSlots ..)

theorem dropPoolHandle (s : Store) (p : PoolId) : s.Released (s.dropPoolHandle p) := by
  unfold Store.dropPoolHandle
  split
  next => exact refl s
  next pool hpool =>
    have hleft : s.Released
        { s with pools := s.pools.set p { pool with handles := pool.handles - 1 } } :=
      of_same rfl rfl
    dsimp only
    split
    next => exact hleft
    next => exact hleft.trans (clearPool ..)

theorem releaseContext (s : Store) (c : Context) : s.Released (c.release s) := by
  unfold Context.release
  split
  next => exact refl s
  next => exact (clearPool ..).trans (giveBack ..)

/-- What has memory has what it had. -/
theorem block?_eq_some (hs : s.Released s') {block : Block} (hblock : s'.block? id = some block) :
    s.block? id = some block := by
  obtain ⟨a', ha', hblock⟩ := Option.bind_eq_some_iff.mp hblock
  obtain ⟨a, ha, -, hsame⟩ := hs.allocation ha'
  rw [Store.block?, ha, Option.bind_some, hsame block hblock]

end Released

/-! ## Pools -/

theorem pools_dropSlots (slots : List (PoolKey × Slot)) (s : Store) :
    (slots.foldl (fun s (_, slot) => s.dropSlot slot) s).pools = s.pools := by
  induction slots generalizing s with
  | nil => rfl
  | cons entry slots ih =>
    obtain ⟨key, slot⟩ := entry
    rw [List.foldl_cons, ih]
    cases slot with
    | held allocation => rfl
    | retained allocation => exact pools_dropHandle allocation s

/-- A cleared pool has no slots. -/
theorem slots_clearPool (p : PoolId) (s : Store) : (s.clearPool p).slots p = [] := by
  rw [clearPool, slots, pools_dropSlots, ← slots]
  cases hp : s.pools[p]? with
  | none => simp [slots, getElem?_setSlots, hp]
  | some q => exact slots_setSlots hp []

theorem slots_clearPool_of_ne {p i : PoolId} (hi : i ≠ p) (s : Store) :
    (s.clearPool p).slots i = s.slots i := by
  rw [clearPool, slots, pools_dropSlots, ← slots, slots_setSlots_of_ne hi]

/-- A pool without slots goes whatever stands in the journal. -/
theorem dropPoolHandle_of_slots_eq_nil {p : PoolId} (hslots : s.slots p = [])
    (journal : List Event) :
    { s with journal := journal }.dropPoolHandle p =
      { s.dropPoolHandle p with journal := journal } := by
  cases hp : s.pools[p]? with
  | none => simp only [dropPoolHandle, hp]
  | some q =>
    have hq : q.slots = [] := (slots_eq hp).symm.trans hslots
    have hlt := (List.getElem?_eq_some_iff.mp hp).1
    simp only [dropPoolHandle, hp]
    split
    next => rfl
    next => simp [clearPool, slots, setSlots, hlt, hq]

@[simp] theorem pools_giveBack (a : AllocatorId) (change : Stack → Return Stack) (s : Store) :
    (s.giveBack a change).pools = s.pools := by
  unfold giveBack
  split <;> rfl

/-! ## Contexts that were not torn down -/

section Context

variable {c : Context}

theorem slots_releaseContext (htorn : c.tornDown = false) (s : Store) :
    (c.release s).slots c.pool = [] := by
  rw [Context.release, if_neg (by simp [htorn]), slots, trim, pools_giveBack]
  exact slots_clearPool c.pool s

theorem slots_releaseContext_of_ne {p : PoolId} (hp : p ≠ c.pool) (s : Store) :
    (c.release s).slots p = s.slots p := by
  unfold Context.release
  split
  next => rfl
  next =>
    rw [slots, trim, pools_giveBack]
    exact slots_clearPool_of_ne hp s

/-- A trimmed allocator for device memory has nothing parked. -/
theorem Balanced.getElem?_trim {a : AllocatorId} {capacity : Nat} {state : Recycling (Metered Nat)}
    (hs : s.Balanced h)
    (ha : s.allocators[a]? = some ⟨.host, [.recycling capacity, .metered], state⟩) :
    ∃ state' : Recycling (Metered Nat), state'.parked = [] ∧
      (s.trim a).allocators[a]? = some ⟨.host, [.recycling capacity, .metered], state'⟩ := by
  have hledger : Allocator.hostLedger.metered.Parking capacity state (s.granted a + h.blocks a) :=
    (accounts_iff ha _).mp (hs.ledger a)
  obtain ⟨inner, hdrain, -⟩ := Allocator.hostLedger.metered.drain hledger.owed
  refine ⟨⟨[], inner⟩, rfl, ?_⟩
  have htrim : Stack.trim ⟨.host, [.recycling capacity, .metered], state⟩ =
      .done ⟨.host, [.recycling capacity, .metered], (⟨[], inner⟩ : Recycling (Metered Nat))⟩ :=
    congrArg (Return.map _) hdrain
  simp only [Store.trim, giveBack, ha, Option.map_some, htrim]
  exact List.getElem?_set_self (List.getElem?_eq_some_iff.mp ha).1

end Context

end DeviceMemory.Store
