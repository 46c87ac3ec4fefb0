-- SUMMARY: The usage that a recycling allocator reports is exact: what handles reach is outstanding, what is parked is cached.
import DeviceMemory.Proofs.Session.Balance

/-!
# Exact bookkeeping

An allocation of a session is in use if it has memory and some handle reaches
it: a named buffer, an array, or a retained slot of a pool that a named object
holds. In every session that commands reach, an allocator for device memory
reports exactly these as outstanding, and exactly what it parked as cached. No
block is lost, and no two of them lie at the same address, so none went back to
the device while it was still in use or parked.
-/

namespace DeviceMemory

/-! ## Allocations with memory -/

namespace Store

/-- The memory that an allocation has of an allocator. -/
def memory? (a : AllocatorId) (s : Store) (id : AllocationId) : Option Block :=
  s.allocations[id]?.bind fun allocation =>
    if allocation.allocator = a then allocation.block else none

/-- The address of an allocation's memory. -/
def addressOf (s : Store) (id : AllocationId) : Nat :=
  ((s.block? id).map Block.address).getD 0

variable {s : Store} {h : Holdings} {a : AllocatorId} {id : AllocationId} {b : Block}

theorem memory?_eq_some_iff :
    s.memory? a id = some b ↔
      ∃ allocation, s.allocations[id]? = some allocation ∧ allocation.allocator = a ∧
        allocation.block = some b := by
  simp only [memory?, Option.bind_eq_some_iff, Option.ite_none_right_eq_some]

/-- What an allocation owes is the memory that it has. -/
theorem owes_eq (hid : id < s.allocations.length) :
    s.allocations[id].owes a = (s.memory? a id).elim 0 fun b => {b.tag} := by
  rw [memory?, List.getElem?_eq_getElem hid, Option.bind_some, Allocation.owes]
  cases s.allocations[id].block with
  | none => simp
  | some b => by_cases ha : s.allocations[id].allocator = a <;> simp [ha]

/-- The address and the size of memory are those of its allocation. -/
theorem Balanced.tag_eq (hs : s.Balanced h) (hb : s.memory? a id = some b) :
    (⟨s.addressOf id, s.sizeOf id⟩ : Tag) = b.tag := by
  obtain ⟨allocation, hid, -, hblock⟩ := memory?_eq_some_iff.mp hb
  have hsize : b.size = allocation.size := hs.sizes allocation (List.mem_of_getElem? hid) b hblock
  simp [addressOf, sizeOf, block?, hid, hblock, Block.tag, hsize]

/-- Allocators owe to allocations what the allocations with memory have. -/
theorem Balanced.granted_eq (hs : s.Balanced h) (a : AllocatorId) :
    s.granted a =
      (((List.range s.allocations.length).filter fun id => (s.memory? a id).isSome).map
        fun id => (⟨s.addressOf id, s.sizeOf id⟩ : Tag) : List Tag) := by
  have hmap : s.allocations.map (Allocation.owes a) =
      (List.range s.allocations.length).map fun id =>
        (s.memory? a id).elim 0 fun b => {b.tag} := by
    apply List.ext_getElem
    · simp
    · intro id hid _
      simp only [List.getElem_map, List.getElem_range]
      exact owes_eq (by simpa using hid)
  rw [granted, hmap]
  generalize List.range s.allocations.length = ids
  induction ids with
  | nil => rfl
  | cons id ids ih =>
    rw [List.map_cons, List.sum_cons, ih, List.filter_cons]
    cases hid : s.memory? a id with
    | none => simp
    | some b => simp [hs.tag_eq hid]

end Store

/-! ## What handles reach -/

namespace Names

variable {α : Type} {names : Names α} {held : α → Holdings}

theorem holdings_cons (entry : String × α) :
    Names.holdings held (entry :: names) = held entry.2 + names.holdings held := rfl

/-- What a table holds, one of its objects holds. -/
theorem mem_holdings {κ : Type} {part : Holdings → Multiset κ} (hzero : part 0 = 0)
    (hadd : ∀ h k, part (h + k) = part h + part k) {x : κ} :
    x ∈ part (names.holdings held) ↔ ∃ entry ∈ names, x ∈ part (held entry.2) := by
  induction names with
  | nil => simp [holdings, hzero]
  | cons entry names ih =>
    rw [holdings_cons, hadd, Multiset.mem_add, ih]
    simp

/-- The handles that the objects of a table are, each one at most. -/
theorem handles_holdings (part : α → Option AllocationId)
    (hpart : ∀ a, (held a).handles = ((part a).toList : Multiset AllocationId)) :
    (names.holdings held).handles =
      (names.filterMap fun entry => part entry.2 : Multiset AllocationId) := by
  induction names with
  | nil => rfl
  | cons entry names ih =>
    rw [holdings_cons, Holdings.handles_add, ih, hpart, Multiset.coe_add, List.filterMap_cons]
    cases part entry.2 <;> rfl

theorem mem_pools_holdings {id : PoolId} :
    id ∈ (names.holdings held).pools ↔ ∃ entry ∈ names, id ∈ (held entry.2).pools :=
  mem_holdings rfl fun _ _ => rfl

/-- Objects that hold no blocks hold none together. -/
theorem blocks_holdings (hheld : ∀ a, (held a).blocks = 0) : (names.holdings held).blocks = 0 := by
  induction names with
  | nil => rfl
  | cons entry names ih => rw [holdings_cons, Holdings.blocks_add, hheld, ih, add_zero]

end Names

namespace Session

/-- The allocations that named buffers and arrays are handles to. -/
def inHands (s : Session) : List AllocationId :=
  s.buffers.map (·.2.allocation) ++
    s.arrays.filterMap fun entry => entry.2.array.buffer.map Buffer.allocation

/-- The pools that are named or that a context or an array holds. -/
def livePools (s : Session) : List PoolId :=
  s.pools.map (·.2) ++ s.contexts.map (·.2.pool) ++ s.arrays.filterMap (·.2.array.pool)

/-- The allocations in retained slots of live pools. -/
def inPools (s : Session) : List AllocationId :=
  s.livePools.flatMap fun p => (s.store.slots p).filterMap (·.2.handle?)

/-- The allocations that have memory from an allocator and that some handle reaches. -/
def inUse (a : AllocatorId) (s : Session) : List AllocationId :=
  (List.range s.store.allocations.length).filter fun id =>
    (s.store.memory? a id).isSome ∧ (id ∈ s.inHands ∨ id ∈ s.inPools)

variable {s : Session} {id : AllocationId}

/-- The handles that the named objects are. -/
theorem handles_holdings (s : Session) :
    s.holdings.handles = (s.inHands : Multiset AllocationId) := by
  have hbuffers : (s.buffers.holdings Buffer.holdings).handles =
      (s.buffers.map (·.2.allocation) : Multiset AllocationId) := by
    rw [Names.handles_holdings (fun b => some b.allocation) fun _ => rfl]
    exact congrArg _ (congrFun (List.filterMap_eq_map ..) s.buffers)
  have harrays : (s.arrays.holdings AnyArray.holdings).handles =
      (s.arrays.filterMap fun entry => entry.2.array.buffer.map Buffer.allocation :
        Multiset AllocationId) :=
    Names.handles_holdings (fun a : AnyArray => a.array.buffer.map Buffer.allocation)
      fun a => a.array.handles_holdings
  have hpools : (s.pools.holdings .pool).handles = 0 := by
    rw [Names.handles_holdings (fun _ => none) fun _ => rfl, List.filterMap_none]
    rfl
  have hcontexts : (s.contexts.holdings Context.holdings).handles = 0 := by
    rw [Names.handles_holdings (fun _ => none) fun _ => rfl, List.filterMap_none]
    rfl
  rw [holdings, Holdings.handles_add, Holdings.handles_add, Holdings.handles_add, hbuffers, hpools,
    hcontexts, harrays, add_zero, add_zero, Multiset.coe_add, inHands]

theorem mem_inHands_of_handles (hid : id ∈ s.holdings.handles) : id ∈ s.inHands := by
  rwa [handles_holdings] at hid

theorem mem_handles_of_inHands (hid : id ∈ s.inHands) : id ∈ s.holdings.handles := by
  rwa [handles_holdings]

theorem mem_livePools_of_pools {p : PoolId} (hp : p ∈ s.holdings.pools) : p ∈ s.livePools := by
  simp only [holdings, Holdings.pools_add, Multiset.mem_add, Names.mem_pools_holdings] at hp
  simp only [livePools, List.mem_append, List.mem_map, List.mem_filterMap]
  rcases hp with ((hbuffer | hpool) | hcontext) | harray
  · obtain ⟨entry, hentry, hp⟩ := hbuffer
    cases Multiset.notMem_zero p hp
  · obtain ⟨entry, hentry, hp⟩ := hpool
    exact .inl (.inl ⟨entry, hentry, (Multiset.mem_singleton.mp hp).symm⟩)
  · obtain ⟨entry, hentry, hp⟩ := hcontext
    exact .inl (.inr ⟨entry, hentry, (Multiset.mem_singleton.mp hp).symm⟩)
  · obtain ⟨entry, hentry, hp⟩ := harray
    exact .inr ⟨entry, hentry, BlockArray.mem_pools_holdings.mp hp⟩

theorem mem_pools_of_livePools {p : PoolId} (hp : p ∈ s.livePools) : p ∈ s.holdings.pools := by
  simp only [holdings, Holdings.pools_add, Multiset.mem_add, Names.mem_pools_holdings]
  simp only [livePools, List.mem_append, List.mem_map, List.mem_filterMap] at hp
  rcases hp with (⟨entry, hentry, rfl⟩ | ⟨entry, hentry, rfl⟩) | ⟨entry, hentry, hp⟩
  · exact .inl (.inl (.inr ⟨entry, hentry, Multiset.mem_singleton_self _⟩))
  · exact .inl (.inr ⟨entry, hentry, Multiset.mem_singleton_self _⟩)
  · exact .inr ⟨entry, hentry, BlockArray.mem_pools_holdings.mpr hp⟩

theorem mem_inPools_iff :
    id ∈ s.inPools ↔ ∃ p ∈ s.livePools, ∃ entry ∈ s.store.slots p, entry.2.handle? = some id := by
  simp [inPools, List.mem_flatMap, List.mem_filterMap]

theorem mem_retained_of_inPools (hid : id ∈ s.inPools) : id ∈ s.store.retained := by
  obtain ⟨p, -, entry, hentry, hhandle⟩ := mem_inPools_iff.mp hid
  have hretained : entry.2 = .retained id := by
    cases hslot : entry.2 <;> simp_all [Slot.handle?]
  cases hq : s.store.pools[p]? with
  | none =>
    rw [Store.slots, hq] at hentry
    cases hentry
  | some q =>
    rw [Store.slots_eq hq] at hentry
    exact Store.mem_retained.mpr
      ⟨q, List.mem_of_getElem? hq, mem_retainedIn.mpr ⟨entry, hentry, hretained⟩⟩

/-- A slot that is a handle is in a pool that someone holds. -/
theorem Sound.mem_inPools (hs : s.Sound) (hid : id ∈ s.store.retained) : id ∈ s.inPools := by
  obtain ⟨pool, hpool, hid⟩ := Store.mem_retained.mp hid
  obtain ⟨entry, hentry, hslot⟩ := mem_retainedIn.mp hid
  obtain ⟨p, hp⟩ := List.mem_iff_getElem?.mp hpool
  have hhandles : pool.handles ≠ 0 := by
    intro hzero
    rw [hs.balanced.deserted pool hpool hzero] at hentry
    cases hentry
  have hlive : p ∈ s.holdings.pools := by
    rw [← Multiset.count_pos, ← hs.balanced.poolHandles p, Store.poolHandles_eq hp]
    exact Nat.pos_of_ne_zero hhandles
  refine List.mem_flatMap.mpr ⟨p, mem_livePools_of_pools hlive, ?_⟩
  refine List.mem_filterMap.mpr ⟨entry, ?_, ?_⟩
  · rwa [Store.slots_eq hp]
  · rw [hslot]
    rfl

/-- An allocation with memory is one that some handle reaches. -/
theorem Sound.reached {a : AllocatorId} (hs : s.Sound) (hid : (s.store.memory? a id).isSome) :
    id ∈ s.inHands ∨ id ∈ s.inPools := by
  obtain ⟨b, hb⟩ := Option.isSome_iff_exists.mp hid
  obtain ⟨allocation, hallocation, -, hblock⟩ := Store.memory?_eq_some_iff.mp hb
  have hhandles : allocation.handles ≠ 0 := by
    intro hzero
    have hnone := hs.balanced.unused allocation (List.mem_of_getElem? hallocation) hzero
    rw [hblock] at hnone
    cases hnone
  have hcount : id ∈ s.holdings.handles + s.store.retained := by
    rw [← Multiset.count_pos, ← hs.balanced.handles id, Store.handles_eq hallocation]
    exact Nat.pos_of_ne_zero hhandles
  exact (Multiset.mem_add.mp hcount).imp mem_inHands_of_handles hs.mem_inPools

theorem Sound.inUse_eq (hs : s.Sound) (a : AllocatorId) :
    s.inUse a =
      (List.range s.store.allocations.length).filter fun id => (s.store.memory? a id).isSome := by
  refine List.filter_congr fun id _ => ?_
  cases hid : (s.store.memory? a id).isSome with
  | false => simp
  | true => simpa using hs.reached hid

/-- No one holds a block that is in no allocation. -/
theorem blocks_holdings (s : Session) : s.holdings.blocks = 0 := by
  have harray (a : AnyArray) : a.holdings.blocks = 0 := by
    obtain ⟨t, e, len, buffer, ownership, pool, grid⟩ := a
    cases buffer <;> cases pool <;> simp [AnyArray.holdings, BlockArray.holdings]
  simp only [holdings, Holdings.blocks_add]
  rw [Names.blocks_holdings fun _ => rfl, Names.blocks_holdings fun _ => rfl,
    Names.blocks_holdings fun _ => rfl, Names.blocks_holdings harray]
  simp

/-- Allocators owe exactly the blocks that are in use. -/
theorem Sound.accounts (hs : s.Sound) {a : AllocatorId} {stack : Stack}
    (ha : s.store.allocators[a]? = some stack) :
    stack.Accounts ((s.inUse a).map fun id => ⟨s.store.addressOf id, s.store.sizeOf id⟩ :
      List Tag) := by
  have howed := hs.balanced.ledger a
  rw [s.blocks_holdings, Pi.zero_apply, add_zero, hs.balanced.granted_eq, ← hs.inUse_eq] at howed
  exact (Store.accounts_iff ha _).mp howed

/-! ## The usage of an allocator -/

/-- What a recycling allocator for device memory reports is exact. -/
structure Books (s : Session) (a : AllocatorId) (capacity : Nat)
    (state : Recycling (Metered Nat)) : Prop where
  outstandingBuffers : (s.store.usage a).outstandingBuffers = (s.inUse a).length
  outstandingBytes :
    (s.store.usage a).outstandingBytes = ((s.inUse a).map s.store.sizeOf).sum
  liveBuffers :
    (s.store.usage a).liveBuffers =
      (s.store.usage a).outstandingBuffers + (s.store.usage a).cachedBuffers
  liveBytes :
    (s.store.usage a).liveBytes =
      (s.store.usage a).outstandingBytes + (s.store.usage a).cachedBytes
  cachedBuffers : (s.store.usage a).cachedBuffers = state.parked.length
  cachedBytes : (s.store.usage a).cachedBytes = (state.parked.map Block.size).sum
  bounded : ∀ size, (Parked.ofSize size state.parked).length ≤ capacity
  /-- A block is in use by one allocation, or parked once, and never both. -/
  addresses :
    ((s.inUse a).map s.store.addressOf ++ state.parked.map Block.address).Nodup

variable {a : AllocatorId} {capacity : Nat} {state : Recycling (Metered Nat)}

/-- Below its layers, the allocator owes what is parked and what is in use. -/
theorem Sound.parking (hs : s.Sound)
    (ha : s.store.allocators[a]? = some ⟨.host, [.recycling capacity, .metered], state⟩) :
    Allocator.hostLedger.metered.Parking capacity state
      ((s.inUse a).map fun id => ⟨s.store.addressOf id, s.store.sizeOf id⟩ : List Tag) :=
  hs.accounts ha

/-- No allocator traps when memory goes back to it. -/
theorem Reachable.untrapped (hs : s.Reachable) : s.store.trapped = false :=
  hs.sound.balanced.untrapped

/-- In every session that commands reach, the books of an allocator for device memory
    are exact, as long as the number of its blocks fits in a word. -/
theorem Reachable.books_exact (hs : s.Reachable)
    (ha : s.store.allocators[a]? = some ⟨.host, [.recycling capacity, .metered], state⟩)
    (hfew : (s.inUse a).length + state.parked.length < Word.limit) :
    s.Books a capacity state := by
  obtain ⟨⟨hcounts, hplaced⟩, hbounded⟩ := hs.sound.parking ha
  have husage : s.store.usage a =
      ⟨state.inner.meter.liveBuffers, state.inner.meter.liveBytes, state.inner.meter.peakBytes,
        state.inner.meter.totalAllocations, state.parked.length,
        (state.parked.map Block.size).sum⟩ := by
    rw [Store.usage, ha]
    rfl
  have hbuffers : state.inner.meter.liveBuffers = (s.inUse a).length + state.parked.length := by
    rw [hcounts.buffers, Multiset.card_add, Parked.card_tags, Multiset.coe_card, List.length_map,
      Nat.add_comm, Nat.mod_eq_of_lt hfew]
  have hbytes : state.inner.meter.liveBytes =
      ((s.inUse a).map s.store.sizeOf).sum + (state.parked.map Block.size).sum := by
    rw [hcounts.bytes, Tag.total_add, Parked.total_tags, Nat.add_comm]
    simp [Tag.total, Function.comp_def]
  have houtstanding : (s.store.usage a).outstandingBuffers = (s.inUse a).length := by
    rw [husage, Usage.outstandingBuffers, hbuffers, Nat.add_sub_cancel]
  have hbytesOut : (s.store.usage a).outstandingBytes = ((s.inUse a).map s.store.sizeOf).sum := by
    rw [husage, Usage.outstandingBytes, hbytes, Nat.add_sub_cancel]
  refine ⟨houtstanding, hbytesOut, ?_, ?_, ?_, ?_, hbounded, ?_⟩
  · rw [houtstanding, husage, hbuffers]
  · rw [hbytesOut, husage, hbytes]
  · rw [husage]
  · rw [husage]
  · have hnodup := hplaced.2
    rw [Multiset.map_add, add_comm, Parked.tags, Multiset.map_coe, Multiset.map_coe,
      Multiset.coe_add, Multiset.coe_nodup, List.map_map, List.map_map] at hnodup
    exact hnodup

/-- Commands that leave a view as the only handle of its allocation, an allocation that only
    a pool keeps, a buffer without memory, and a parked block. One of them fails. -/
def mixedRun : List Command :=
  [.allocator (.make "device" .host [.recycling 1, .metered]),
    .buffer (.allocate "all" "device" .int32 [4] false),
    .buffer (.view "half" "all" 0 8),
    .buffer (.drop "all"),
    .pool (.make "shared" "device" true),
    .pool (.acquire "slot" "shared" ⟨1, Nat.one_ne_zero⟩ .int32 [2]),
    .buffer (.drop "slot"),
    .buffer (.create "lazy" "device" .int32 [1] false),
    .buffer (.view "outside" "lazy" 4 4),
    .buffer (.allocate "short" "device" .int32 [3] true),
    .buffer (.drop "short")]

theorem books_exact_mixedRun :
    ∃ state : Recycling (Metered Nat),
      (empty.after mixedRun).store.allocators[0]? =
          some ⟨.host, [.recycling 1, .metered], state⟩ ∧
        (empty.after mixedRun).inUse 0 = [0, 1] ∧ state.parked.length = 1 ∧
        (empty.after mixedRun).Books 0 1 state :=
  ⟨_, rfl, rfl, rfl, Reachable.books_exact (Reachable.empty.after rfl) rfl (by decide)⟩

end Session

end DeviceMemory
