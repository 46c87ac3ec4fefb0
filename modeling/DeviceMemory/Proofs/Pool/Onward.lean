-- SUMMARY: What stays over whole commands: dead allocations and pools stay dead, memory in use stays, and slots go only when dead or forgotten.
import DeviceMemory.Proofs.Context.Balance
import DeviceMemory.Proofs.Pool.Live

/-!
# Onward

`s.Onward written forgotten s'` says what no command can undo between two stores.
Numbers of allocations and pools are not used twice, so what lost its last handle
stays without one; memory stays as long as its allocation has a handle, with its
contents unless the allocation is in `written`; a slot goes if it is dead or its
key is in `forgotten`, and no slot comes. The relation is transitive, so a command
goes onward if each of its parts does, `filed` apart.
-/

namespace DeviceMemory

/-- The slots that tearing a context down forgets. -/
def Context.clears (c : Context) : Set (PoolId × PoolKey) :=
  {entry | entry.1 = c.pool ∧ c.tornDown = false}

namespace Store

/-- What stays of the allocations and pools of a store in a later one. -/
structure Grown (s : Store) (written : Set AllocationId) (s' : Store) : Prop where
  made : ∀ {id : AllocationId} {a : Allocation}, s.allocations[id]? = some a →
    ∃ a', s'.allocations[id]? = some a' ∧ a'.allocator = a.allocator ∧ a'.size = a.size
  gone : ∀ {id : AllocationId} {a : Allocation}, s.allocations[id]? = some a → a.handles = 0 →
    s'.handles id = 0
  memory : ∀ {id : AllocationId} {block : Block}, s.block? id = some block →
    0 < s'.handles id → ∃ block', s'.block? id = some block' ∧ block'.tag = block.tag ∧
      (id ∉ written → block' = block)
  pools : ∀ {id : PoolId} {p : Pool}, s.pools[id]? = some p →
    ∃ p', s'.pools[id]? = some p' ∧ p'.allocator = p.allocator ∧ p'.retains = p.retains ∧
      (p.handles = 0 → p'.handles = 0)

/-- What stays of a store in a later one, its slots included. -/
structure Onward (s : Store) (written : Set AllocationId) (forgotten : Set (PoolId × PoolKey))
    (s' : Store) : Prop extends Grown s written s' where
  slots : ∀ {id : PoolId} {entry : PoolKey × Slot}, entry ∈ s'.slots id → entry ∈ s.slots id
  kept : ∀ {id : PoolId} {key : PoolKey} {slot : Slot}, (key, slot) ∈ s.slots id →
    slot.allocation < s.allocations.length → slot.isLive s' = true → 0 < s'.poolHandles id →
    (id, key) ∉ forgotten → (key, slot) ∈ s'.slots id
  forgets : ∀ {id : PoolId} {key : PoolKey} {slot : Slot}, (id, key) ∈ forgotten →
    (key, slot) ∉ s'.slots id

variable {s s' s'' : Store} {written written' : Set AllocationId}
  {forgotten forgotten' : Set (PoolId × PoolKey)} {id : AllocationId}

theorem lt_length_of_mem_slots {p : PoolId} {entry : PoolKey × Slot}
    (hentry : entry ∈ s.slots p) : p < s.pools.length := by
  by_contra hge
  rw [Store.slots, List.getElem?_eq_none (Nat.le_of_not_lt hge)] at hentry
  cases hentry

namespace Grown

/-! ## Consequences -/

theorem length_le (hs : s.Grown written s') : s.allocations.length ≤ s'.allocations.length := by
  by_contra hlt
  obtain ⟨a', ha', -⟩ := hs.made (List.getElem?_eq_getElem (Nat.lt_of_not_le hlt))
  rw [List.getElem?_eq_none (Nat.le_refl _)] at ha'
  cases ha'

theorem length_pools_le (hs : s.Grown written s') : s.pools.length ≤ s'.pools.length := by
  by_contra hlt
  obtain ⟨p', hp', -⟩ := hs.pools (List.getElem?_eq_getElem (Nat.lt_of_not_le hlt))
  rw [List.getElem?_eq_none (Nat.le_refl _)] at hp'
  cases hp'

/-- What has a handle had one before, if it was there. -/
theorem handles_pos (hs : s.Grown written s') (hid : id < s.allocations.length)
    (hpos : 0 < s'.handles id) : 0 < s.handles id := by
  have hsome := List.getElem?_eq_getElem hid
  rw [handles_eq hsome]
  refine Nat.pos_of_ne_zero fun hzero => ?_
  rw [hs.gone hsome hzero] at hpos
  cases hpos

theorem isLive (hs : s.Grown written s') {slot : Slot}
    (hid : slot.allocation < s.allocations.length) (hlive : slot.isLive s' = true) :
    slot.isLive s = true := by
  cases slot with
  | held allocation => exact decide_eq_true (hs.handles_pos hid (of_decide_eq_true hlive))
  | retained allocation => rfl

/-- A pool in use was in use before, if it was there. -/
theorem poolHandles_pos (hs : s.Grown written s') {p : PoolId} (hp : p < s.pools.length)
    (hpos : 0 < s'.poolHandles p) : 0 < s.poolHandles p := by
  have hsome := List.getElem?_eq_getElem hp
  rw [poolHandles_eq hsome]
  refine Nat.pos_of_ne_zero fun hzero => ?_
  obtain ⟨p', hp', -, -, hdead⟩ := hs.pools hsome
  rw [poolHandles_eq hp', hdead hzero] at hpos
  cases hpos

theorem retainsOf_eq (hs : s.Grown written s') {p : PoolId} (hp : p < s.pools.length) :
    Pool.retainsOf p s' = Pool.retainsOf p s := by
  have hsome := List.getElem?_eq_getElem hp
  obtain ⟨p', hp', -, hretains, -⟩ := hs.pools hsome
  rw [Pool.retainsOf, Pool.retainsOf, hsome, hp', Option.map_some, Option.map_some, hretains]

theorem trans (hs : s.Grown written s') (hs' : s'.Grown written' s'') :
    s.Grown (written ∪ written') s'' where
  made ha := by
    obtain ⟨a', ha', hallocator, hsize⟩ := hs.made ha
    obtain ⟨a'', ha'', hallocator', hsize'⟩ := hs'.made ha'
    exact ⟨a'', ha'', hallocator'.trans hallocator, hsize'.trans hsize⟩
  gone ha hzero := by
    obtain ⟨a', ha', -⟩ := hs.made ha
    exact hs'.gone ha' (handles_eq ha' ▸ hs.gone ha hzero)
  memory {id block} hblock hpos := by
    obtain ⟨a, ha, -⟩ := Option.bind_eq_some_iff.mp hblock
    have hlt := (List.getElem?_eq_some_iff.mp ha).1
    have hpos' := hs'.handles_pos (Nat.lt_of_lt_of_le hlt hs.length_le) hpos
    obtain ⟨block', hblock', htag, hsame⟩ := hs.memory hblock hpos'
    obtain ⟨block'', hblock'', htag', hsame'⟩ := hs'.memory hblock' hpos
    exact ⟨block'', hblock'', htag'.trans htag, fun hnot =>
      (hsame' fun hmem => hnot (.inr hmem)).trans (hsame fun hmem => hnot (.inl hmem))⟩
  pools hp := by
    obtain ⟨p', hp', hallocator, hretains, hdead⟩ := hs.pools hp
    obtain ⟨p'', hp'', hallocator', hretains', hdead'⟩ := hs'.pools hp'
    exact ⟨p'', hp'', hallocator'.trans hallocator, hretains'.trans hretains,
      fun hzero => hdead' (hdead hzero)⟩

theorem mono (hs : s.Grown written s') (hle : written ⊆ written') : s.Grown written' s' where
  made := hs.made
  gone := hs.gone
  memory hblock hpos := by
    obtain ⟨block', hblock', htag, hsame⟩ := hs.memory hblock hpos
    exact ⟨block', hblock', htag, fun hnot => hsame fun hmem => hnot (hle hmem)⟩
  pools := hs.pools

/-- A buffer covers its allocation as long as that has a handle. -/
theorem covers (hs : s.Grown written s') {t : ScalarType} {shape : List Nat} {b : Buffer}
    (hb : b.Covers t shape s) (hpos : 0 < s'.handles b.allocation) : b.Covers t shape s' := by
  obtain ⟨a, ha, hmemory, hsize, hwhole⟩ := hb
  obtain ⟨block, hblock⟩ := Option.isSome_iff_exists.mp hmemory
  obtain ⟨a', ha', -, hsame⟩ := hs.made ha
  have hblock? : s.block? b.allocation = some block := by
    rw [Store.block?, ha, Option.bind_some, hblock]
  obtain ⟨block', hblock', -⟩ := hs.memory hblock? hpos
  rw [Store.block?, ha', Option.bind_some] at hblock'
  exact ⟨a', ha', by rw [hblock']; rfl, hsame ▸ hsize, hsame ▸ hwhole⟩

end Grown

namespace Onward

/-! ## Sequences -/

theorem mono (hs : s.Onward written forgotten s') (hle : written ⊆ written') :
    s.Onward written' forgotten s' :=
  ⟨hs.toGrown.mono hle, hs.slots, hs.kept, hs.forgets⟩

theorem trans (hs : s.Onward written forgotten s') (hs' : s'.Onward written' forgotten' s'') :
    s.Onward (written ∪ written') (forgotten ∪ forgotten') s'' where
  toGrown := hs.toGrown.trans hs'.toGrown
  slots hentry := hs.slots (hs'.slots hentry)
  kept {i key slot} hentry hid hlive huse hnot := by
    have hid' := Nat.lt_of_lt_of_le hid hs.length_le
    have hp := Nat.lt_of_lt_of_le (lt_length_of_mem_slots hentry) hs.length_pools_le
    have hmid := hs.kept hentry hid (hs'.isLive hid' hlive) (hs'.poolHandles_pos hp huse)
      fun hmem => hnot (.inl hmem)
    exact hs'.kept hmid hid' hlive huse fun hmem => hnot (.inr hmem)
  forgets hmem hentry := by
    rcases hmem with hmem | hmem
    · exact hs.forgets hmem (hs'.slots hentry)
    · exact hs'.forgets hmem hentry

/-- A part that writes and forgets nothing adds nothing to what went before it, -/
theorem andThen (hs : s.Onward written forgotten s') (hs' : s'.Onward ∅ ∅ s'') :
    s.Onward written forgotten s'' := by
  simpa using hs.trans hs'

/-- nor to what comes after it. -/
theorem after (hs' : s'.Onward written forgotten s'') (hs : s.Onward ∅ ∅ s') :
    s.Onward written forgotten s'' := by
  simpa using hs.trans hs'

/-! ## Parts -/

/-- Pools may change alone. -/
theorem of_pools (hallocations : s'.allocations = s.allocations)
    (hpools : ∀ {i : PoolId} {p : Pool}, s.pools[i]? = some p →
      ∃ p', s'.pools[i]? = some p' ∧ p'.allocator = p.allocator ∧ p'.retains = p.retains ∧
        (p.handles = 0 → p'.handles = 0))
    (hslots : ∀ {i : PoolId} {entry : PoolKey × Slot}, entry ∈ s'.slots i → entry ∈ s.slots i)
    (hkept : ∀ {i : PoolId} {key : PoolKey} {slot : Slot}, (key, slot) ∈ s.slots i →
      slot.isLive s = true → 0 < s'.poolHandles i → (i, key) ∉ forgotten →
        (key, slot) ∈ s'.slots i)
    (hforgets : ∀ {i : PoolId} {key : PoolKey} {slot : Slot}, (i, key) ∈ forgotten →
      (key, slot) ∉ s'.slots i) :
    s.Onward written forgotten s' where
  made ha := ⟨_, hallocations ▸ ha, rfl, rfl⟩
  gone ha hzero := by rw [handles_eq (hallocations.symm ▸ ha), hzero]
  memory hblock _ := by
    refine ⟨_, ?_, rfl, fun _ => rfl⟩
    rwa [Store.block?, hallocations]
  pools := hpools
  slots := hslots
  kept hentry _ hlive huse hnot := by
    have hsame (i : AllocationId) : s'.handles i = s.handles i := by
      rw [Store.handles, Store.handles, hallocations]
    exact hkept hentry (Slot.isLive_congr (hsame _) ▸ hlive) huse hnot
  forgets := hforgets

/-- Allocations may change alone. -/
theorem of_allocations (hpools : s'.pools = s.pools)
    (hmade : ∀ {i : AllocationId} {a : Allocation}, s.allocations[i]? = some a →
      ∃ a', s'.allocations[i]? = some a' ∧ a'.allocator = a.allocator ∧ a'.size = a.size)
    (hgone : ∀ {i : AllocationId} {a : Allocation}, s.allocations[i]? = some a →
      a.handles = 0 → s'.handles i = 0)
    (hmemory : ∀ {i : AllocationId} {block : Block}, s.block? i = some block →
      0 < s'.handles i → ∃ block', s'.block? i = some block' ∧ block'.tag = block.tag ∧
        (i ∉ written → block' = block)) :
    s.Onward written ∅ s' := by
  have hslots (i : PoolId) : s'.slots i = s.slots i := by rw [Store.slots, hpools, Store.slots]
  refine ⟨⟨hmade, hgone, hmemory, fun hp => ⟨_, hpools ▸ hp, rfl, rfl, fun hzero => hzero⟩⟩,
    fun {i entry} hentry => ?_, fun {i _ _} hentry _ _ _ _ => ?_,
    fun hmem => absurd hmem (Set.notMem_empty _)⟩
  · rwa [hslots i] at hentry
  · rwa [hslots i]

theorem refl (s : Store) : s.Onward ∅ ∅ s :=
  of_allocations rfl (fun ha => ⟨_, ha, rfl, rfl⟩) (fun ha hzero => by rw [handles_eq ha, hzero])
    fun hblock _ => ⟨_, hblock, rfl, fun _ => rfl⟩

/-- Allocators, the journal and a kept trap are not compared. -/
theorem of_same (hpools : s'.pools = s.pools) (hallocations : s'.allocations = s.allocations) :
    s.Onward ∅ ∅ s' := by
  refine of_allocations hpools (fun ha => ⟨_, hallocations ▸ ha, rfl, rfl⟩) (fun ha hzero => ?_)
    fun hblock _ => ⟨_, ?_, rfl, fun _ => rfl⟩
  · rw [handles_eq (hallocations.symm ▸ ha), hzero]
  · rwa [Store.block?, hallocations]

theorem of_since {extra : Multiset AllocationId} (hs : s.Since written extra s') :
    s.Onward written ∅ s' := by
  have hgone {i : AllocationId} {a : Allocation} (ha : s.allocations[i]? = some a)
      (hzero : a.handles = 0) : s'.handles i = 0 := by
    rw [hs.handles i, handles_eq ha, hzero, Nat.zero_add, Multiset.count_eq_zero]
    intro hi
    rcases hs.known i hi with hpos | hge
    · rw [handles_eq ha, hzero] at hpos
      cases hpos
    · rw [List.getElem?_eq_none hge] at ha
      cases ha
  refine of_allocations hs.pools hs.made hgone fun {i block} hblock hpos => ?_
  obtain ⟨a, ha, -⟩ := Option.bind_eq_some_iff.mp hblock
  refine hs.memory (Nat.pos_of_ne_zero fun hzero => ?_) hblock
  rw [hgone ha (handles_eq ha ▸ hzero)] at hpos
  cases hpos

theorem addHandle (hid : 0 < s.handles id) : s.Onward ∅ ∅ (s.addHandle id) := by
  have hs : s.Since ∅ (id ::ₘ 0) (s.addHandle id) := (Since.refl s).addHandle (.inr hid)
  exact of_since hs

theorem dropHandle (s : Store) (id : AllocationId) : s.Onward ∅ ∅ (s.dropHandle id) := by
  cases ha : s.allocations[id]? with
  | none =>
    rw [Store.dropHandle, ha]
    exact refl s
  | some a =>
    have hlt := (List.getElem?_eq_some_iff.mp ha).1
    have hset (a' : Allocation) (hallocator : a'.allocator = a.allocator)
        (hsize : a'.size = a.size) (hle : a'.handles ≤ a.handles)
        (hblock : 0 < a'.handles → a'.block = a.block) :
        s.Onward ∅ ∅ (s.setAllocation id a') := by
      refine of_allocations rfl (fun {i a₀} hi => ?_) (fun {i a₀} hi hzero => ?_)
        fun {i block} hi hpos => ?_
      · by_cases hid : i = id
        · subst hid
          cases ha.symm.trans hi
          exact ⟨a', List.getElem?_set_self hlt, hallocator, hsize⟩
        · exact ⟨a₀, (List.getElem?_set_ne (Ne.symm hid)).trans hi, rfl, rfl⟩
      · rw [handles_setAllocation ha, handles_eq hi]
        split
        next hid =>
          subst hid
          cases ha.symm.trans hi
          omega
        next => exact hzero
      · rw [handles_setAllocation ha] at hpos
        rw [Since.block?_setAllocation ha]
        refine ⟨block, ?_, rfl, fun _ => rfl⟩
        split at hpos
        next hid =>
          subst hid
          rw [if_pos rfl, hblock hpos]
          rwa [Store.block?, ha] at hi
        next hid => rwa [if_neg hid]
    simp only [Store.dropHandle, ha]
    split
    next => exact hset _ rfl rfl (Nat.sub_le ..) fun _ => rfl
    next =>
      have hlast := hset { a with handles := 0, block := none } rfl rfl (Nat.zero_le _)
        fun hpos => absurd hpos (Nat.lt_irrefl 0)
      split
      next => exact hlast
      next block _ =>
        refine hlast.andThen (of_same (pools_free ..) ?_)
        simp only [Store.free, giveBack]
        split <;> rfl

/-! ## Pools -/

/-- Some slots of a pool go, dead ones or those under a forgotten key. -/
theorem setSlots {p : PoolId} {new : List (PoolKey × Slot)}
    (hsub : ∀ entry ∈ new, entry ∈ s.slots p)
    (hkept : ∀ key slot, (key, slot) ∈ s.slots p → slot.isLive s = true → (p, key) ∉ forgotten →
      (key, slot) ∈ new)
    (hforgets : ∀ i key, (i, key) ∈ forgotten → i = p ∧ ∀ slot, (key, slot) ∉ new) :
    s.Onward ∅ forgotten (s.setSlots p new) := by
  have hslots {i : PoolId} {entry : PoolKey × Slot} (hentry : entry ∈ (s.setSlots p new).slots i) :
      (i = p ∧ entry ∈ new) ∨ (i ≠ p ∧ entry ∈ s.slots i) := by
    by_cases hi : i = p
    · subst hi
      cases hp : s.pools[i]? with
      | none => simp [Store.slots, getElem?_setSlots, hp] at hentry
      | some q => exact .inl ⟨rfl, slots_setSlots hp new ▸ hentry⟩
    · exact .inr ⟨hi, slots_setSlots_of_ne hi new s ▸ hentry⟩
  refine of_pools rfl (fun {i q} hi => ?_) (fun hentry => ?_)
    (fun {i key slot} hentry hlive _ hnot => ?_) fun hmem hentry => ?_
  · rw [getElem?_setSlots, hi, Option.map_some]
    split
    next => exact ⟨_, rfl, rfl, rfl, fun hzero => hzero⟩
    next => exact ⟨_, rfl, rfl, rfl, fun hzero => hzero⟩
  · rcases hslots hentry with ⟨rfl, hnew⟩ | ⟨-, hold⟩
    · exact hsub _ hnew
    · exact hold
  · by_cases hi : i = p
    · subst hi
      cases hp : s.pools[i]? with
      | none => simp [Store.slots, hp] at hentry
      | some q =>
        rw [slots_setSlots hp]
        exact hkept key slot hentry hlive hnot
    · rwa [slots_setSlots_of_ne hi]
  · obtain ⟨rfl, hnone⟩ := hforgets _ _ hmem
    rcases hslots hentry with ⟨-, hnew⟩ | ⟨hne, -⟩
    · exact hnone _ hnew
    · exact hne rfl

/-- A lookup forgets what it finds dead. -/
theorem pruned {h : Holdings} (hs : s.Balanced h) (p : PoolId) (key : PoolKey) :
    s.Onward ∅ ∅ (Pool.pruned p key s) := by
  unfold Pool.pruned
  split
  next => exact refl s
  next hnone =>
    refine setSlots (fun _ hentry => List.mem_of_mem_filter hentry)
      (fun k slot hentry hlive _ => List.mem_filter.mpr ⟨hentry, ?_⟩)
      fun _ _ hmem => absurd hmem (Set.notMem_empty _)
    have hne : k ≠ key := by
      rintro rfl
      have hlookup : (s.slots p).lookup k = some slot :=
        (Pool.mem_of_lookup_eq_some hs).mpr hentry
      rw [Pool.live?_eq_none_iff.mp hnone slot hlookup] at hlive
      cases hlive
    simpa using hne

theorem dropSlot (s : Store) (slot : Slot) : s.Onward ∅ ∅ (s.dropSlot slot) := by
  cases slot with
  | held allocation => exact refl s
  | retained allocation => exact dropHandle s allocation

theorem dropSlots (s : Store) (slots : List (PoolKey × Slot)) :
    s.Onward ∅ ∅ (slots.foldl (fun s (_, slot) => s.dropSlot slot) s) := by
  induction slots generalizing s with
  | nil => exact refl s
  | cons entry slots ih => exact (dropSlot s entry.2).andThen (ih _)

theorem release (s : Store) (p : PoolId) (key : PoolKey) :
    s.Onward ∅ {(p, key)} (Pool.release p key s).2 := by
  have hforget : s.Onward ∅ {(p, key)} (s.setSlots p (Pool.without key (s.slots p))) := by
    refine setSlots (fun _ hentry => List.mem_of_mem_filter hentry)
      (fun k slot hentry _ hnot => ?_) ?_
    · have hne : k ≠ key := fun heq => hnot (by rw [heq]; rfl)
      exact List.mem_filter.mpr ⟨hentry, by simpa using hne⟩
    · rintro i k hmem
      cases hmem
      refine ⟨rfl, fun slot hentry => ?_⟩
      simpa using (List.mem_filter.mp hentry).2
  rw [Pool.release]
  split
  next hnone =>
    rwa [Pool.without, Entries.filter_of_lookup_eq_none hnone, setSlots_slots] at hforget
  next slot _ => exact hforget.andThen (dropSlot _ slot)

theorem clearPool (s : Store) (p : PoolId) :
    s.Onward ∅ {entry | entry.1 = p} (s.clearPool p) := by
  refine andThen (setSlots (fun _ hentry => absurd hentry List.not_mem_nil)
    (fun _ _ _ _ hnot => absurd rfl hnot) fun i key hmem => ?_) (dropSlots _ _)
  exact ⟨hmem, fun _ => List.not_mem_nil⟩

/-- A pool may get or lose handles, but none after the last. -/
theorem setPoolHandles {p : PoolId} {q : Pool} (hq : s.pools[p]? = some q) {n : Nat}
    (hn : q.handles = 0 → n = 0) :
    s.Onward ∅ ∅ { s with pools := s.pools.set p { q with handles := n } } := by
  have hlt := (List.getElem?_eq_some_iff.mp hq).1
  have hget (i : PoolId) : (s.pools.set p { q with handles := n })[i]? =
      if i = p then some { q with handles := n } else s.pools[i]? := by
    split
    next hi => rw [hi, List.getElem?_set_self hlt]
    next hi => rw [List.getElem?_set_ne (Ne.symm hi)]
  have hslots (i : PoolId) :
      ({ s with pools := s.pools.set p { q with handles := n } } : Store).slots i = s.slots i := by
    simp only [Store.slots, hget]
    split
    next hi => rw [hi, hq]; rfl
    next => rfl
  refine of_pools rfl (fun {i q'} hi => ?_) (fun hentry => hslots _ ▸ hentry)
    (fun hentry _ _ _ => (hslots _).symm ▸ hentry) fun hmem => absurd hmem (Set.notMem_empty _)
  simp only [hget]
  split
  next hid =>
    subst hid
    cases hq.symm.trans hi
    exact ⟨_, rfl, rfl, rfl, hn⟩
  next => exact ⟨q', hi, rfl, rfl, fun hzero => hzero⟩

theorem addPoolHandle {p : PoolId} (hpos : 0 < s.poolHandles p) :
    s.Onward ∅ ∅ (s.addPoolHandle p) := by
  cases hq : s.pools[p]? with
  | none =>
    rw [Store.poolHandles, hq] at hpos
    cases hpos
  | some q =>
    rw [poolHandles_eq hq] at hpos
    rw [Store.addPoolHandle, Entries.modify_eq_set hq]
    exact setPoolHandles hq fun hzero => absurd hzero (Nat.ne_of_gt hpos)

/-- A pool that no one holds any more may lose its slots. -/
theorem dropPoolHandle (s : Store) (p : PoolId) : s.Onward ∅ ∅ (s.dropPoolHandle p) := by
  cases hq : s.pools[p]? with
  | none =>
    rw [Store.dropPoolHandle, hq]
    exact refl s
  | some q =>
    have hleft : s.Onward ∅ ∅
        { s with pools := s.pools.set p { q with handles := q.handles - 1 } } :=
      setPoolHandles hq fun hzero => by rw [hzero]
    simp only [Store.dropPoolHandle, hq]
    split
    next => exact hleft
    next hlast =>
      -- the slots that go are in a pool that is no longer in use
      have hcleared := hleft.trans (clearPool _ p)
      simp only [Set.empty_union] at hcleared
      refine ⟨hcleared.toGrown, hcleared.slots, fun {i key slot} hentry hid hlive huse _ => ?_,
        fun hmem => absurd hmem (Set.notMem_empty _)⟩
      refine hcleared.kept hentry hid hlive huse fun hmem => ?_
      obtain rfl : i = p := by simpa using hmem
      have hlt := (List.getElem?_eq_some_iff.mp hq).1
      have hdead := (clearPool _ i).poolHandles_pos (by simpa using hlt) huse
      rw [Store.poolHandles, List.getElem?_set_self hlt] at hdead
      simp only [Option.map_some, Option.getD_some] at hdead
      omega

theorem addPool (s : Store) (allocator : AllocatorId) (retains : Bool) :
    s.Onward ∅ ∅ (s.addPool allocator retains).2 := by
  have hslots (i : PoolId) : (s.addPool allocator retains).2.slots i = s.slots i := by
    simp only [Store.slots, Store.addPool]
    rcases Nat.lt_trichotomy i s.pools.length with hlt | rfl | hgt
    · rw [List.getElem?_append_left hlt]
    · rw [List.getElem?_concat_length, List.getElem?_eq_none (Nat.le_refl _)]
      rfl
    · rw [List.getElem?_eq_none (Nat.le_of_lt hgt), List.getElem?_eq_none (by simp; omega)]
  refine of_pools rfl (fun {i q} hi => ?_) (fun hentry => hslots _ ▸ hentry)
    (fun hentry _ _ _ => (hslots _).symm ▸ hentry) fun hmem => absurd hmem (Set.notMem_empty _)
  exact ⟨q, (List.getElem?_append_left (List.getElem?_eq_some_iff.mp hi).1).trans hi, rfl, rfl,
    fun hzero => hzero⟩

/-! ## Contexts -/

theorem trim (s : Store) (a : AllocatorId) : s.Onward ∅ ∅ (s.trim a) := by
  unfold Store.trim giveBack
  split
  next => exact refl _
  next => exact of_same rfl rfl
  next => exact of_same rfl rfl

theorem releaseContext (s : Store) (c : Context) : s.Onward ∅ c.clears (c.release s) := by
  unfold Context.release
  split
  next htorn =>
    have hnone : c.clears = ∅ := by
      ext entry
      simp [Context.clears, htorn]
    rw [hnone]
    exact refl s
  next htorn =>
    have hall : c.clears = {entry | entry.1 = c.pool} := by
      ext entry
      simp [Context.clears, htorn]
    rw [hall]
    exact (clearPool s c.pool).andThen (trim _ c.allocator)

theorem tearDown (s : Store) (c : Context) : s.Onward ∅ c.clears (c.tearDown s).2 := by
  simp only [Context.tearDown]
  split
  next => exact (releaseContext s c).andThen (of_same rfl rfl)
  next => exact releaseContext s c

theorem dropContext (s : Store) (c : Context) : s.Onward ∅ c.clears (c.drop s) := by
  simp only [Context.drop]
  split
  next htorn =>
    have hdrop := (releaseContext s c).andThen (dropPoolHandle _ c.pool)
    rwa [Context.release, if_pos htorn] at hdrop
  next => exact (tearDown s c).andThen (dropPoolHandle _ c.pool)

end Onward

/-! ## What a failure leaves -/

/-- What a failure leaves of a store: everything that can be seen of it. -/
structure Spared (s s' : Store) : Prop extends Onward s ∅ ∅ s' where
  handles : ∀ id, s'.handles id = s.handles id
  poolHandles : ∀ id, s'.poolHandles id = s.poolHandles id

/-- What made no handle and wrote nothing. -/
theorem Since.spared (hs : s.Since ∅ 0 s') : s.Spared s' where
  toOnward := .of_since hs
  handles i := by rw [hs.handles i, Multiset.count_zero, Nat.add_zero]
  poolHandles i := by rw [Store.poolHandles, hs.pools, ← Store.poolHandles]

/-- What came after a lookup and made no handle and wrote nothing. -/
theorem Balanced.spared {h : Holdings} (hbalanced : s.Balanced h) {p : PoolId} {key : PoolKey}
    (hs : (Pool.pruned p key s).Since ∅ 0 s') : s.Spared s' where
  toOnward := (Onward.pruned hbalanced p key).andThen (.of_since hs)
  handles i := by rw [hs.spared.handles i, Pool.handles_pruned]
  poolHandles i := by rw [hs.spared.poolHandles i, Pool.poolHandles_pruned]

namespace Spared

variable {h : Holdings}

theorem block?_eq (hs : s.Spared s') (hbalanced : s.Balanced h) {block : Block}
    (hblock : s.block? id = some block) : s'.block? id = some block := by
  have hpos := hbalanced.handles_pos_of_block? hblock
  rw [← hs.handles id] at hpos
  obtain ⟨block', hblock', -, hsame⟩ := hs.memory hblock hpos
  rw [hblock', hsame (Set.notMem_empty id)]

/-- The pools show the same under every key. -/
theorem live?_eq (hs : s.Spared s') (hbalanced : s.Balanced h) (p : PoolId) (key : PoolKey) :
    Pool.live? p key s' = Pool.live? p key s := by
  have hisLive (slot : Slot) : slot.isLive s' = slot.isLive s := Slot.isLive_congr (hs.handles _)
  have hlookup {slot : Slot} (hslot : (s'.slots p).lookup key = some slot) :
      (s.slots p).lookup key = some slot :=
    (Pool.mem_of_lookup_eq_some hbalanced).mpr (hs.slots (Entries.mem_of_lookup hslot))
  ext A
  simp only [Pool.live?_eq_some_iff, hisLive]
  refine ⟨fun ⟨slot, hslot, hlive⟩ => ⟨slot, hlookup hslot, hlive⟩, ?_⟩
  rintro ⟨slot, hslot, hlive, rfl⟩
  obtain ⟨q, hq, huse, -⟩ := hbalanced.exists_pool_of_lookup hslot
  obtain ⟨a, ha, -⟩ := exists_of_handles_pos (Pool.handles_pos_of_live hbalanced
    (Pool.live?_eq_some_iff.mpr ⟨slot, hslot, hlive, rfl⟩))
  have hmem := hs.kept (Entries.mem_of_lookup hslot) (List.getElem?_eq_some_iff.mp ha).1
    ((hisLive slot).trans hlive) (by rwa [hs.poolHandles, poolHandles_eq hq]) (Set.notMem_empty _)
  -- the slot is there still, and no other is under its key
  cases hslot' : (s'.slots p).lookup key with
  | none => simpa using List.lookup_eq_none_iff.mp hslot' _ hmem
  | some slot' =>
    cases hslot.symm.trans (hlookup hslot')
    exact ⟨slot, rfl, hlive, rfl⟩

end Spared

end Store

section Registries

open DeviceMemory.Action

variable {s₀ : Store} {written : Set AllocationId} {extra : Multiset AllocationId}

/-- A registry makes allocators, which hold nothing. -/
theorem Registry.since_get (r : Registry) (device : Device) (capacity : Nat) :
    Triple (s₀.Since written extra) (r.get device capacity) (fun _ => s₀.Since written extra)
      (s₀.Since written extra) := by
  unfold get
  split
  next => exact Triple.pure fun _ hs => hs
  next =>
    refine Triple.via (fun _ => s₀.Since written extra) ?_ fun id => Triple.pure fun _ hs => hs
    cases device with
    | cpu => exact fun s (hs : s₀.Since written extra s) => hs.congr rfl rfl
    | cuda ordinal => exact triple_fail (fun _ hs => hs) _

theorem Context.onward_setUp (registry : Registry) (config : Config) :
    Triple (s₀.Since ∅ 0) (setUp registry config) (fun _ => s₀.Onward ∅ ∅) (s₀.Since ∅ 0) := by
  refine Triple.bind (triple_ensure fun _ hs => hs) fun _ => ?_
  refine Triple.bind (registry.since_get config.device config.cacheCapacity) fun result => ?_
  refine Triple.via (fun _ => s₀.Onward ∅ ∅) (triple_total ?_) fun pool => ?_
  · exact fun s hs => (Store.Onward.of_since hs).andThen (.addPool s _ _)
  · exact Triple.via (fun _ => s₀.Onward ∅ ∅)
      (triple_update fun s hs => hs.andThen (.of_same rfl rfl)) fun _ => Triple.pure fun _ hs => hs

end Registries

end DeviceMemory
