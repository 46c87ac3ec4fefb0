-- SUMMARY: Handles in a session: in range, counted, and each allocation with memory keeps it exactly as long as it has a handle.
import DeviceMemory.Proofs.Session.Fates

/-!
# Handles of a session

The handles of a session are its named buffers and the buffers of its arrays. Each
lies in its allocation, so nothing that is done with one stops at its range
(`Reachable.handles_formed`). They are counted: an allocation has as many handles
as there are such buffers, and one more if a pool retains it. For pools retain no
allocation twice, which is because its slot was filed when it was new.

Memory that an allocation has stays as long as the allocation has a handle, over
whatever commands. The step is in what a command leaves (`Store.Grown`), and the
run lemma puts steps together (`Reachable.grown_after`).
-/

namespace DeviceMemory

/-! ## Retained slots -/

namespace Store

variable {s : Store} {h : Holdings}

theorem retained_eq (s : Store) :
    s.retained =
      (s.pools.flatMap fun p => p.slots.filterMap (·.2.handle?) : Multiset AllocationId) := by
  rw [retained]
  induction s.pools with
  | nil => rfl
  | cons p pools ih =>
    rw [List.map_cons, List.sum_cons, ih, List.flatMap_cons, ← Multiset.coe_add]
    rfl

theorem allocation_of_handle? {slot : Slot} {A : AllocationId} (hslot : slot.handle? = some A) :
    slot.allocation = A := by
  cases slot with
  | held => cases hslot
  | retained => exact Option.some.inj hslot

/-- Pools retain no allocation twice. -/
theorem SlotsFormed.retained_nodup (hformed : s.SlotsFormed) (hs : s.Balanced h) :
    s.retained.Nodup := by
  rw [retained_eq, Multiset.coe_nodup, List.nodup_flatMap]
  constructor
  · intro p hp
    obtain ⟨id, hid⟩ := List.mem_iff_getElem?.mp hp
    refine List.pairwise_filterMap.mpr ((List.pairwise_map.mp (hs.keys p hp)).imp_of_mem ?_)
    rintro entry entry' hentry hentry' hkeys A hA _ hA' rfl
    rw [← slots_eq hid] at hentry hentry'
    refine hkeys (hformed.apart hentry hentry' ?_).2
    rw [allocation_of_handle? hA, allocation_of_handle? hA']
  · rw [List.pairwise_iff_getElem]
    intro i j hi hj hij A hA hA'
    obtain ⟨entry, hentry, hslot⟩ := List.mem_filterMap.mp hA
    obtain ⟨entry', hentry', hslot'⟩ := List.mem_filterMap.mp hA'
    rw [← slots_eq (List.getElem?_eq_getElem hi)] at hentry
    rw [← slots_eq (List.getElem?_eq_getElem hj)] at hentry'
    refine Nat.ne_of_lt hij (hformed.apart hentry hentry' ?_).1
    rw [allocation_of_handle? hslot, allocation_of_handle? hslot']

end Store

namespace Session

open DeviceMemory.Action

variable {s : Session} {A : AllocationId}

/-! ## Counting -/

/-- The handles of an allocation are the named buffers and arrays and the slot that retains it. -/
theorem Reachable.handles_eq (hs : s.Reachable) (A : AllocationId) :
    s.store.handles A = s.inHands.count A + if A ∈ s.inPools then 1 else 0 := by
  have hretained : s.store.retained.count A = if A ∈ s.inPools then 1 else 0 := by
    rw [Multiset.count_eq_of_nodup (hs.slotsFormed.retained_nodup hs.sound.balanced)]
    exact if_congr ⟨hs.sound.mem_inPools, mem_retained_of_inPools⟩ rfl rfl
  rw [hs.sound.balanced.handles, Multiset.count_add, hretained, handles_holdings,
    Multiset.coe_count]

/-! ## Lifetime -/

/-- Memory with a handle stays over a command, and so do its contents unless that overwrites it. -/
theorem Reachable.grown {c : Command} (hs : s.Reachable) (hc : c.isDirect = false)
    (htrap : (s.step c).1.isTrap = false) :
    s.store.Grown (c.overwrites s) (s.step c).2.store := by
  rcases hs.ok_or_failed hc htrap with ⟨answer, hok⟩ | ⟨-, store, hstore, hnext⟩
  · rw [Command.overwrites, hok]
    exact (hs.sound.step_moves hs.slotsFormed hc hok).store.toGrown
  · rw [hnext]
    exact hstore.toGrown.mono (Set.empty_subset _)

/-- No command brings back what lost its last handle, or takes memory that has one. -/
theorem Reachable.grown_after {since : List Command} (hs : s.Reachable)
    (hclean : s.isClean since = true) :
    s.store.Grown {A | ¬s.Unwritten since A} (s.after since).store := by
  induction since generalizing s with
  | nil => exact (Store.Onward.refl s.store).toGrown.mono (Set.empty_subset _)
  | cons c since ih =>
    obtain ⟨hc, htrap, hclean⟩ := isClean_cons.mp hclean
    refine ((hs.grown hc htrap).trans (ih (hs.step c hc htrap) hclean)).mono ?_
    rintro A hA hunwritten
    obtain ⟨hfirst, hrest⟩ := unwritten_cons.mp hunwritten
    exact hA.elim hfirst fun hnot => hnot hrest

/-- Memory stays exactly as long as its allocation has a handle. -/
theorem Reachable.isSome_block?_after {since : List Command} (hs : s.Reachable)
    (hclean : s.isClean since = true) (hA : (s.store.block? A).isSome = true) :
    ((s.after since).store.block? A).isSome = true ↔ 0 < (s.after since).store.handles A := by
  obtain ⟨block, hblock⟩ := Option.isSome_iff_exists.mp hA
  constructor
  · intro hsome
    obtain ⟨block', hblock'⟩ := Option.isSome_iff_exists.mp hsome
    exact (hs.after hclean).sound.balanced.handles_pos_of_block? hblock'
  · intro hpos
    obtain ⟨block', hblock', -⟩ := (hs.grown_after hclean).memory hblock hpos
    rw [hblock']
    rfl

/-! ## Handles -/

/-- A named buffer, or the buffer of a named array. -/
inductive Handle (s : Session) (b : Buffer) : Prop where
  | buffer {name : String} (hb : s.buffers.lookup name = some b)
  | array {name : String} {a : AnyArray} (ha : s.arrays.lookup name = some a)
      (hb : a.array.buffer = some b)

theorem Reachable.formed_of_handle (hs : s.Reachable) {b : Buffer} (hb : s.Handle b) :
    b.Formed s.store := by
  cases hb with
  | buffer hb => exact hs.formed hb
  | array ha hb => exact ((hs.fitted ha).covers b hb).formed

theorem Handle.mem_handles (hs : s.Sound) {b : Buffer} (hb : s.Handle b) :
    b.allocation ∈ s.holdings.handles := by
  cases hb with
  | buffer hb => exact mem_handles_of_buffer hs.distinct hb
  | array ha hb => exact heldIn_of_array hs.distinct ha b hb

/-- How the handles of a session behave. -/
structure HandlesFormed (s : Session) : Prop where
  /-- A handle lies in its allocation, whose size is a word. -/
  inside : ∀ {b}, s.Handle b → b.offset + b.size ≤ s.store.sizeOf b.allocation ∧
    s.store.sizeOf b.allocation < Word.limit
  /-- Memory has the size of its allocation. -/
  memory : ∀ {A block}, s.store.block? A = some block → block.size = s.store.sizeOf A
  shape : ∀ {b}, s.Handle b → b.shape.prod = b.numel
  /-- No operation stops at a range: each ends as the requests for memory and the comparisons
      of sizes in it do. -/
  zero : ∀ {b}, s.Handle b → (exec b.zero s.store).1 = (exec b.acquire s.store).1
  write : ∀ {b}, s.Handle b → ∀ bytes, (exec (b.write bytes) s.store).1 =
    (exec (do
      b.acquire
      ensure (b.size = bytes.length) (.sizeMismatch b.size bytes.length)) s.store).1
  read : ∀ {b}, s.Handle b → ∀ size, (exec (b.read size) s.store).1 =
    (exec (do
      b.acquire
      ensure (b.size = size) (.sizeMismatch b.size size)
      Action.read b.bytes) s.store).1
  copyFrom : ∀ {b source}, s.Handle b → s.Handle source →
    (exec (b.copyFrom source) s.store).1 = (exec (b.copyChecks source) s.store).1
  /-- The handles of an allocation are all named, but for the one that a slot may be. -/
  count : ∀ A, s.store.handles A = s.inHands.count A + if A ∈ s.inPools then 1 else 0
  /-- Memory that is there stays until the last handle goes. -/
  lifetime : ∀ {A}, (s.store.block? A).isSome = true → ∀ {since}, s.isClean since = true →
    (((s.after since).store.block? A).isSome = true ↔ 0 < (s.after since).store.handles A)
  /-- It can be read through any handle. -/
  readable : ∀ {b}, s.Handle b → b.isAllocated s.store = true →
    exec (b.read b.size) s.store = (.ok (b.bytes s.store), s.store)
  /-- A view of a view is made if both lie in what they are views of. -/
  view_view_iff : ∀ {b}, s.Handle b → ∀ {offset₁ size₁ offset₂ size₂},
    (∃ v w s₁ s₂, exec (b.view offset₁ size₁) s.store = (.ok v, s₁) ∧
        exec (v.view offset₂ size₂) s₁ = (.ok w, s₂)) ↔
      offset₁ + size₁ ≤ b.size ∧ offset₂ + size₂ ≤ size₁
  /-- It is the view from the sum of the offsets on. -/
  view_view : ∀ {b}, s.Handle b → ∀ {offset₁ size₁ offset₂ size₂ v w s₁ s₂},
    exec (b.view offset₁ size₁) s.store = (.ok v, s₁) →
    exec (v.view offset₂ size₂) s₁ = (.ok w, s₂) →
    exec (b.view (offset₁ + offset₂) size₂) s.store = (.ok w, s₁)

/-- In every session that commands reach, handles lie in their allocations and are counted, and
    memory stays as long as its allocation has a handle. -/
theorem Reachable.handles_formed (hs : s.Reachable) : s.HandlesFormed where
  inside hb := ⟨(hs.formed_of_handle hb).fits, (hs.formed_of_handle hb).word⟩
  memory hblock := (hs.sound.balanced.sizeOf_eq hblock).symm
  shape hb := (hs.formed_of_handle hb).counted
  zero hb := (hs.formed_of_handle hb).outcome_zero hs.sound.balanced (hb.mem_handles hs.sound)
  write hb :=
    (hs.formed_of_handle hb).outcome_write hs.sound.balanced (hb.mem_handles hs.sound)
  read hb := (hs.formed_of_handle hb).outcome_read hs.sound.balanced (hb.mem_handles hs.sound)
  copyFrom hb hsource :=
    (hs.formed_of_handle hb).outcome_copyFrom (hs.formed_of_handle hsource) hs.sound.balanced
      (hb.mem_handles hs.sound) (hsource.mem_handles hs.sound)
  count := hs.handles_eq
  lifetime hA _ hclean := hs.isSome_block?_after hclean hA
  readable hb hmemory := ((hs.formed_of_handle hb).backed hs.sound.balanced hmemory).read_eq rfl
  view_view_iff _ := Buffer.view_view_iff
  view_view _ := Buffer.exec_view_of_view_view

/-- Commands that leave a ragged view of a view, and an allocation that a buffer and an array
    are handles to and that a pool retains. -/
def nestedRun : List Command :=
  [.allocator (.make "device" .host [.metered]),
    .buffer (.allocate "all" "device" .int32 [4] true),
    .buffer (.view "half" "all" 4 8),
    .buffer (.view "ragged" "half" 1 6),
    .pool (.make "shared" "device" true),
    .pool (.acquire "slot" "shared" ⟨1, Nat.one_ne_zero⟩ .int64 [1]),
    .array (.shared "pair" .int32 .scalar "shared" ⟨1, Nat.one_ne_zero⟩ 2),
    .array (.acquire "pair")]

theorem handles_formed_nestedRun :
    (empty.after nestedRun).buffers.lookup "ragged" = some ⟨0, 5, 6, .int32, [1]⟩ ∧
      (empty.after nestedRun).store.handles 0 = 3 ∧
      (empty.after nestedRun).store.handles 1 = 3 ∧
      (empty.after nestedRun).inHands.count 1 = 2 ∧ 1 ∈ (empty.after nestedRun).inPools ∧
      (empty.after nestedRun).HandlesFormed :=
  ⟨rfl, rfl, rfl, rfl, by decide, Reachable.handles_formed (Reachable.empty.after rfl)⟩

end Session

end DeviceMemory
