-- SUMMARY: What a pool shows under its keys, and the outcome of every acquisition in terms of that.
import DeviceMemory.Proofs.Buffer.Contents
import DeviceMemory.Proofs.Buffer.Since
import DeviceMemory.Proofs.Pool.Balance

/-!
# Live keys

`Pool.live? id key s` is the allocation that a pool shows under a key. It is what
`Pool.contains` and `Pool.liveSlots` count, and what a lookup finds
(`exec_find`); slots that are there but dead show nothing. An acquisition of a
live key hands out its allocation or refuses the size (`exec_acquire_live`), any
other acquisition allocates and files the new allocation under the key
(`exec_acquire_new`).
-/

namespace DeviceMemory

variable {s s' : Store} {id : PoolId} {key : PoolKey} {A : AllocationId}

/-- Whether a slot is live depends on the handles to its allocation alone. -/
theorem Slot.isLive_congr {slot : Slot}
    (hsame : s'.handles slot.allocation = s.handles slot.allocation) :
    slot.isLive s' = slot.isLive s := by
  cases slot with
  | held allocation =>
    have hsame' : s'.handles allocation = s.handles allocation := hsame
    rw [Slot.isLive, Slot.isLive, hsame']
  | retained allocation => rfl

namespace Store

/-! ## Tables of slots -/

theorem getElem?_setSlots (id : PoolId) (new : List (PoolKey × Slot)) (s : Store) (i : PoolId) :
    (s.setSlots id new).pools[i]? =
      s.pools[i]?.map fun p => if id = i then { p with slots := new } else p := by
  rw [setSlots, List.getElem?_modify]
  cases s.pools[i]? <;> rfl

@[simp] theorem poolHandles_setSlots (id : PoolId) (new : List (PoolKey × Slot)) (s : Store)
    (i : PoolId) : (s.setSlots id new).poolHandles i = s.poolHandles i := by
  rw [poolHandles, poolHandles, getElem?_setSlots, Option.map_map]
  congr 2
  funext p
  simp only [Function.comp_apply]
  split <;> rfl

@[simp] theorem allocatorOf_setSlots (id : PoolId) (new : List (PoolKey × Slot)) (s : Store)
    (i : PoolId) : Pool.allocatorOf i (s.setSlots id new) = Pool.allocatorOf i s := by
  rw [Pool.allocatorOf, Pool.allocatorOf, getElem?_setSlots, Option.map_map]
  congr 2
  funext p
  simp only [Function.comp_apply]
  split <;> rfl

@[simp] theorem retainsOf_setSlots (id : PoolId) (new : List (PoolKey × Slot)) (s : Store)
    (i : PoolId) : Pool.retainsOf i (s.setSlots id new) = Pool.retainsOf i s := by
  rw [Pool.retainsOf, Pool.retainsOf, getElem?_setSlots, Option.map_map]
  congr 2
  funext p
  simp only [Function.comp_apply]
  split <;> rfl

theorem slots_setSlots_of_ne {i : PoolId} (hi : i ≠ id) (new : List (PoolKey × Slot))
    (s : Store) : (s.setSlots id new).slots i = s.slots i := by
  rw [slots, slots, getElem?_setSlots]
  cases s.pools[i]? with
  | none => rfl
  | some p => simp [Ne.symm hi]

@[simp] theorem setSlots_slots (id : PoolId) (s : Store) : s.setSlots id (s.slots id) = s := by
  cases hp : s.pools[id]? with
  | none =>
    rw [setSlots, List.modify_eq_self]
    exact List.getElem?_eq_none_iff.mp hp
  | some p =>
    rw [setSlots, Entries.modify_eq_set hp, slots_eq hp]
    have hself : s.pools.set id p = s.pools := by
      obtain ⟨hlt, rfl⟩ := List.getElem?_eq_some_iff.mp hp
      exact List.set_getElem_self hlt
    exact congrArg (fun pools => { s with pools := pools }) hself

/-- No pool has two slots under one key. -/
theorem Balanced.slots_nodup {h : Holdings} (hs : s.Balanced h) (id : PoolId) :
    ((s.slots id).map Prod.fst).Nodup := by
  cases hp : s.pools[id]? with
  | none =>
    rw [slots, hp]
    exact List.nodup_nil
  | some p =>
    rw [slots_eq hp]
    exact hs.keys p (List.mem_of_getElem? hp)

/-- An allocation with memory has a handle. -/
theorem Balanced.handles_pos_of_block? {h : Holdings} {block : Block} (hs : s.Balanced h)
    (hblock : s.block? A = some block) : 0 < s.handles A := by
  obtain ⟨a, ha, hab⟩ := Buffer.exists_of_block? hblock
  rw [handles_eq ha]
  refine Nat.pos_of_ne_zero fun hzero => ?_
  rw [hs.unused a (List.mem_of_getElem? ha) hzero] at hab
  cases hab

/-- Memory has the size that its allocation asked for. -/
theorem Balanced.sizeOf_eq {h : Holdings} {block : Block} (hs : s.Balanced h)
    (hblock : s.block? A = some block) : s.sizeOf A = block.size := by
  obtain ⟨a, ha, hab⟩ := Buffer.exists_of_block? hblock
  rw [sizeOf, ha]
  exact (hs.sizes a (List.mem_of_getElem? ha) block hab).symm

end Store

namespace Pool

/-! ## Live keys -/

/-- What a pool shows under a key: the allocation of the slot, while it is live. -/
def live? (id : PoolId) (key : PoolKey) (s : Store) : Option AllocationId :=
  ((s.slots id).lookup key).bind fun slot =>
    if slot.isLive s then some slot.allocation else none

theorem live?_eq_some_iff :
    live? id key s = some A ↔
      ∃ slot, (s.slots id).lookup key = some slot ∧ slot.isLive s = true ∧
        slot.allocation = A := by
  simp only [live?, Option.bind_eq_some_iff, Option.ite_none_right_eq_some, Option.some.injEq]

theorem live?_eq_none_iff :
    live? id key s = none ↔
      ∀ slot, (s.slots id).lookup key = some slot → slot.isLive s = false := by
  simp only [live?, Option.bind_eq_none_iff, ite_eq_right_iff, reduceCtorEq, imp_false,
    Bool.not_eq_true]

theorem contains_eq (id : PoolId) (key : PoolKey) (s : Store) :
    contains id key s = (live? id key s).isSome := by
  rw [contains, live?]
  cases (s.slots id).lookup key with
  | none => rfl
  | some slot => cases hlive : slot.isLive s <;> simp [hlive]

/-- The flag of a release says whether the key was live. -/
theorem release_flag (id : PoolId) (key : PoolKey) (s : Store) :
    (release id key s).1 = (live? id key s).isSome := by
  rw [release, live?]
  cases (s.slots id).lookup key with
  | none => rfl
  | some slot => cases hlive : slot.isLive s <;> simp [hlive]

/-- The keys that are live, one after another. -/
def liveKeys (id : PoolId) (s : Store) : List PoolKey :=
  ((s.slots id).filter (·.2.isLive s)).map Prod.fst

theorem length_liveKeys (id : PoolId) (s : Store) : (liveKeys id s).length = liveSlots id s :=
  List.length_map ..

theorem liveKeys_nodup {h : Holdings} (hs : s.Balanced h) (id : PoolId) :
    (liveKeys id s).Nodup :=
  Entries.nodup_filter _ (hs.slots_nodup id)

theorem mem_of_lookup_eq_some {h : Holdings} (hs : s.Balanced h) {slot : Slot} :
    (s.slots id).lookup key = some slot ↔ (key, slot) ∈ s.slots id := by
  refine ⟨Entries.mem_of_lookup, fun hmem => ?_⟩
  have hkeys := hs.slots_nodup id
  obtain ⟨before, after, hsplit⟩ := List.append_of_mem hmem
  refine List.lookup_eq_some_iff.mpr ⟨before, after, hsplit, fun entry hentry => ?_⟩
  rw [hsplit, List.map_append, List.nodup_append] at hkeys
  simpa using Ne.symm (hkeys.2.2 entry.1 (List.mem_map_of_mem hentry) key (by simp))

theorem mem_liveKeys {h : Holdings} (hs : s.Balanced h) :
    key ∈ liveKeys id s ↔ (live? id key s).isSome = true := by
  simp only [liveKeys, List.mem_map, List.mem_filter, Option.isSome_iff_exists, live?_eq_some_iff]
  constructor
  · rintro ⟨⟨k, slot⟩, ⟨hmem, hlive⟩, rfl⟩
    exact ⟨slot.allocation, slot, (mem_of_lookup_eq_some hs).mpr hmem, hlive, rfl⟩
  · rintro ⟨_, slot, hlookup, hlive, -⟩
    exact ⟨(key, slot), ⟨Entries.mem_of_lookup hlookup, hlive⟩, rfl⟩

/-- What a live key shows has a handle. -/
theorem handles_pos_of_live {h : Holdings} (hs : s.Balanced h) (hlive : live? id key s = some A) :
    0 < s.handles A := by
  obtain ⟨slot, hlookup, hslot, rfl⟩ := live?_eq_some_iff.mp hlive
  obtain ⟨p, hp, -, -⟩ := hs.exists_pool_of_lookup hlookup
  rw [Store.slots_eq hp] at hlookup
  exact hs.handles_pos_of_isLive hp (Entries.mem_of_lookup hlookup) hslot

/-! ## Looking up -/

/-- The store after a key was looked up: a dead slot under it is gone. -/
def pruned (id : PoolId) (key : PoolKey) (s : Store) : Store :=
  match live? id key s with
  | some _ => s
  | none => s.setSlots id (without key (s.slots id))

theorem pruned_of_live (hlive : live? id key s = some A) : pruned id key s = s := by
  rw [pruned, hlive]

theorem pruned_of_none (hnone : live? id key s = none) :
    pruned id key s = s.setSlots id (without key (s.slots id)) := by
  rw [pruned, hnone]

theorem exec_find {ε : Type} (id : PoolId) (key : PoolKey) (s : Store) :
    Action.exec (find id key : Action ε (Option AllocationId)) s =
      (.ok (live? id key s), pruned id key s) := by
  rw [find, Action.exec_total, pruned, live?]
  cases hlookup : (s.slots id).lookup key with
  | none =>
    rw [without, Entries.filter_of_lookup_eq_none hlookup, Store.setSlots_slots]
    rfl
  | some slot => cases hlive : slot.isLive s <;> simp [hlive]

@[simp] theorem allocations_pruned (id : PoolId) (key : PoolKey) (s : Store) :
    (pruned id key s).allocations = s.allocations := by
  unfold pruned
  split <;> rfl

@[simp] theorem handles_pruned (id : PoolId) (key : PoolKey) (s : Store) (i : AllocationId) :
    (pruned id key s).handles i = s.handles i := by
  rw [Store.handles, Store.handles, allocations_pruned]

@[simp] theorem block?_pruned (id : PoolId) (key : PoolKey) (s : Store) (i : AllocationId) :
    (pruned id key s).block? i = s.block? i := by
  rw [Store.block?, Store.block?, allocations_pruned]

@[simp] theorem poolHandles_pruned (id : PoolId) (key : PoolKey) (s : Store) (i : PoolId) :
    (pruned id key s).poolHandles i = s.poolHandles i := by
  unfold pruned
  split <;> simp

/-! ## Acquiring -/

variable {t : ScalarType} {shape : List Nat} {size : Nat}

theorem exec_acquire_trap (hsize : byteSize? t shape = none) :
    Action.exec (acquire id key t shape) s = (.error .trap, s) := by
  rw [acquire, hsize]
  rfl

/-- A live key hands out its whole allocation, or refuses another size than it has. -/
theorem exec_acquire_live (hsize : byteSize? t shape = some size)
    (hlive : live? id key s = some A) :
    Action.exec (acquire id key t shape) s =
      if s.sizeOf A = size then
        (.ok (Buffer.whole A size t shape, .reused), s.addHandle A)
      else (.error (.error (.slotMismatch key.id (s.sizeOf A) size)), s) := by
  rw [acquire, Action.exec_checked_bind hsize, Action.exec_bind, exec_find, hlive,
    pruned_of_live hlive]
  simp only
  rw [Action.exec_bind_of_ok (Action.exec_read ..), Store.sizeOf]
  split
  next hsame =>
    rw [Action.exec_ensure_bind hsame, hsame]
    rfl
  next hother =>
    refine Action.exec_bind_of_error ?_
    rw [Action.exec_ensure, if_neg hother]

/-- The store after a buffer's allocation was filed under a key. -/
def filed (id : PoolId) (key : PoolKey) (A : AllocationId) (s : Store) : Store :=
  let retains := retainsOf id s
  let s := if retains then s.addHandle A else s
  s.setSlots id (without key ((s.slots id).filter (·.2.isLive s)) ++
    [(key, if retains then .retained A else .held A)])

/-- A key that is not live gets a new allocation, if there is one to be had. -/
theorem exec_acquire_new (hsize : byteSize? t shape = some size)
    (hnone : live? id key s = none) :
    Action.exec (acquire id key t shape) s =
      match Action.exec (Buffer.allocate (allocatorOf id s) t shape false)
        (pruned id key s) with
      | (.ok b, s') => (.ok (b, .fresh), filed id key b.allocation s')
      | (.error fault, s') => (.error fault, s') := by
  have hallocator : allocatorOf id (pruned id key s) = allocatorOf id s := by
    rw [pruned_of_none hnone, Store.allocatorOf_setSlots]
  rw [acquire, Action.exec_checked_bind hsize, Action.exec_bind, exec_find, hnone]
  simp only
  rw [Action.exec_bind_of_ok (Action.exec_read ..), hallocator, Action.exec_bind]
  rcases Action.exec (Buffer.allocate (allocatorOf id s) t shape false) (pruned id key s)
    with ⟨(fault | b), s'⟩ <;> rfl

end Pool

/-! ## Outcomes of allocations -/

/-- What an allocator answers depends on the allocators alone. -/
theorem Store.alloc_congr (hsame : s'.allocators = s.allocators) (a : AllocatorId) (size : Nat)
    (zeroed : Bool) : (s'.alloc a size zeroed).1 = (s.alloc a size zeroed).1 := by
  rw [alloc, alloc, hsame]
  split <;> rfl

/-- New memory is to be had if the allocator grants it, else its refusal is passed on. -/
theorem Buffer.outcome_allocate {t : ScalarType} {shape : List Nat} {size : Nat}
    (hsize : byteSize? t shape = some size) (a : AllocatorId) (zeroed : Bool) (s : Store) :
    (Action.exec (allocate a t shape zeroed) s).1 =
      (s.alloc a size zeroed).1.map fun _ => whole s.allocations.length size t shape := by
  have hnew : (s.addAllocation a size zeroed).2.allocations[s.allocations.length]? =
      some ⟨a, size, zeroed, 1, none⟩ := List.getElem?_concat_length
  have hsame : (s.addAllocation a size zeroed).2.allocators = s.allocators := rfl
  rw [allocate, Action.exec_bind_of_ok (exec_create hsize a zeroed s), Action.exec_bind,
    Action.orDrop, Action.exec_of, acquire, Action.exec_of, whole, Store.allocate, hnew]
  simp only
  rw [← Store.alloc_congr hsame]
  rcases (s.addAllocation a size zeroed).2.alloc a size zeroed with ⟨(fault | block), s'⟩ <;> rfl

/-- An acquisition of a key that is not live is answered by the pool's allocator. -/
theorem Pool.outcome_acquire_new {t : ScalarType} {shape : List Nat} {size : Nat}
    (hsize : byteSize? t shape = some size) (hnone : live? id key s = none) :
    (Action.exec (acquire id key t shape) s).1 =
      (s.alloc (allocatorOf id s) size false).1.map fun _ =>
        (Buffer.whole s.allocations.length size t shape, .fresh) := by
  have hallocators : (pruned id key s).allocators = s.allocators := by
    rw [pruned_of_none hnone]
    rfl
  have houtcome := Buffer.outcome_allocate hsize (allocatorOf id s) false (pruned id key s)
  rw [allocations_pruned, Store.alloc_congr hallocators] at houtcome
  have hfresh : (Action.exec (acquire id key t shape) s).1 =
      (Action.exec (Buffer.allocate (allocatorOf id s) t shape false) (pruned id key s)).1.map
        fun b => (b, .fresh) := by
    rw [exec_acquire_new hsize hnone]
    rcases Action.exec (Buffer.allocate (allocatorOf id s) t shape false) (pruned id key s)
      with ⟨(fault | b), s'⟩ <;> rfl
  rw [hfresh, houtcome]
  cases (s.alloc (allocatorOf id s) size false).1 <;> rfl

variable {s₀ : Store}

namespace Pool

variable {t : ScalarType} {shape : List Nat}

/-- What an acquisition hands out and what it leaves: one more handle to what the key shows,
    or a new allocation filed under the key. -/
inductive Acquired (id : PoolId) (key : PoolKey) (t : ScalarType) (shape : List Nat)
    (s₀ : Store) : Buffer × Acquisition → Store → Prop where
  | reused {A : AllocationId} {size : Nat} (hlive : live? id key s₀ = some A)
      (hsize : byteSize? t shape = some size) (hsame : s₀.sizeOf A = size) :
      Acquired id key t shape s₀ (.whole A size t shape, .reused) (s₀.addHandle A)
  | fresh {b : Buffer} {s : Store} (hnone : live? id key s₀ = none)
      (hs : (pruned id key s₀).Since ∅ {b.allocation} s)
      (hnew : s₀.allocations.length ≤ b.allocation) (hcovers : b.Covers t shape s) :
      Acquired id key t shape s₀ (b, .fresh) (filed id key b.allocation s)

/-- What fails has looked the key up, and allocated in vain. -/
theorem acquire_ends (id : PoolId) (key : PoolKey) (t : ScalarType) (shape : List Nat) :
    Ends (Acquired id key t shape s₀) ((pruned id key s₀).Since ∅ 0)
      (Action.exec (acquire id key t shape) s₀) := by
  cases hsize : byteSize? t shape with
  | none =>
    rw [exec_acquire_trap hsize]
    trivial
  | some size =>
    cases hlive : live? id key s₀ with
    | some A =>
      rw [exec_acquire_live hsize hlive]
      split
      next hsame => exact .reused hlive hsize hsame
      next =>
        rw [pruned_of_live hlive]
        exact .refl s₀
    | none =>
      have hallocate : Triple ((pruned id key s₀).Since ∅ 0)
          (Buffer.allocate (allocatorOf id s₀) t shape false) _ ((pruned id key s₀).Since ∅ 0) :=
        Buffer.since_allocate (allocatorOf id s₀) t shape false
      have hend := hallocate _ (Store.Since.refl _)
      change Ends _ _ (Action.exec (Buffer.allocate (allocatorOf id s₀) t shape false)
        (pruned id key s₀)) at hend
      rw [exec_acquire_new hsize hlive]
      revert hend
      rcases Action.exec (Buffer.allocate (allocatorOf id s₀) t shape false) (pruned id key s₀)
        with ⟨(fault | b), s'⟩
      · cases fault <;> exact fun hend => hend
      · rintro ⟨hs, hnew, hcovers⟩
        rw [allocations_pruned] at hnew
        exact .fresh hlive hs hnew hcovers

end Pool

end DeviceMemory
