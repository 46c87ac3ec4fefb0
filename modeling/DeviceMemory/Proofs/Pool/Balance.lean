-- SUMMARY: Pools keep the store balanced: a retained slot is a handle like any other, a held one is none.
import DeviceMemory.Proofs.Buffer.Balance
import DeviceMemory.Proofs.Store.Grants

/-!
# Pools and holdings

Acquiring a key adds one handle to what the user holds, whether the memory is
fresh or was there before; a retaining pool takes one more for itself. Forgetting
a key drops the handle that its slot was. Slots found dead are held ones, so
forgetting them drops nothing.
-/

namespace DeviceMemory

/-! ## Slots by key -/

namespace Pool

theorem slots_without {key : PoolKey} {slots : List (PoolKey × Slot)} {slot : Slot}
    (hkeys : (slots.map Prod.fst).Nodup) (hslot : slots.lookup key = some slot) :
    Holdings.slots slots = Holdings.slots [(key, slot)] + Holdings.slots (without key slots) := by
  have hsum (slots : List (PoolKey × Slot)) :
      Holdings.slots slots = (slots.map fun entry => Holdings.slots [entry]).sum := by
    induction slots with
    | nil => rfl
    | cons entry slots ih =>
      rw [List.map_cons, List.sum_cons, ← ih, ← Holdings.slots_append, List.singleton_append]
  rw [hsum, hsum (without key slots)]
  exact Entries.sum_map_filter _ hkeys hslot

/-- Only held slots are ever dead. -/
theorem slots_filter_isLive (s : Store) (slots : List (PoolKey × Slot)) :
    Holdings.slots (slots.filter (·.2.isLive s)) = Holdings.slots slots := by
  induction slots with
  | nil => rfl
  | cons entry slots ih =>
    obtain ⟨key, slot⟩ := entry
    rw [List.filter_cons]
    split
    next =>
      rw [← List.singleton_append (l := slots.filter _), ← List.singleton_append (l := slots),
        Holdings.slots_append, Holdings.slots_append, ih]
    next hdead =>
      cases slot with
      | held allocation =>
        rw [← List.singleton_append (l := slots), Holdings.slots_append, Holdings.slots_held,
          zero_add, ih]
      | retained allocation => exact absurd rfl hdead

end Pool

namespace Store

variable {s : Store} {h : Holdings}

/-- A pool with slots is one that a user holds. -/
theorem Balanced.exists_pool_of_lookup {id : PoolId} {key : PoolKey} {slot : Slot}
    (hs : s.Balanced h) (hslot : (s.slots id).lookup key = some slot) :
    ∃ p, s.pools[id]? = some p ∧ 0 < p.handles ∧ (p.slots.map Prod.fst).Nodup := by
  cases hp : s.pools[id]? with
  | none => simp [slots, hp] at hslot
  | some p =>
    have hmem : p ∈ s.pools := List.mem_of_getElem? hp
    refine ⟨p, rfl, ?_, hs.keys p hmem⟩
    rcases Nat.eq_zero_or_pos p.handles with hzero | hpos
    · rw [slots_eq hp, hs.deserted p hmem hzero] at hslot
      cases hslot
    · exact hpos

/-- Forgetting a key puts what its slot was into the hands of a user. -/
theorem Balanced.forget {id : PoolId} {key : PoolKey} {slot : Slot} (hs : s.Balanced h)
    (hslot : (s.slots id).lookup key = some slot) :
    (s.setSlots id (Pool.without key (s.slots id))).Balanced (h + .slots [(key, slot)]) := by
  obtain ⟨p, hp, hlive, hkeys⟩ := hs.exists_pool_of_lookup hslot
  rw [slots_eq hp] at hslot ⊢
  refine hs.setSlots hp ?_ (.inl hlive) (Entries.nodup_filter _ hkeys)
  rw [Pool.slots_without hkeys hslot, add_assoc]

theorem Balanced.release (hs : s.Balanced h) (id : PoolId) (key : PoolKey) :
    (Pool.release id key s).2.Balanced h := by
  simp only [Pool.release]
  split
  next => exact hs
  next slot hslot => exact Balanced.dropSlot (key, slot) (hs.forget hslot)

end Store

/-! ## Acquiring -/

namespace Store

variable {s : Store} {h : Holdings}

theorem slots_setSlots {id : PoolId} {p : Pool} (hp : s.pools[id]? = some p)
    (new : List (PoolKey × Slot)) : (s.setSlots id new).slots id = new := by
  have hlt : id < s.pools.length := (List.getElem?_eq_some_iff.mp hp).1
  rw [setSlots, Entries.modify_eq_set hp, slots, List.getElem?_set_self hlt]
  rfl

/-- A key that is under no slot may get one, for a handle that a user gives up. -/
theorem Balanced.addSlot {id : PoolId} {p : Pool} {key : PoolKey} {slot : Slot}
    (hs : s.Balanced (h + .slots [(key, slot)])) (hp : s.pools[id]? = some p)
    (hlive : 0 < p.handles) (hnone : (s.slots id).lookup key = none) :
    (s.setSlots id (Pool.without key ((s.slots id).filter (·.2.isLive s)) ++
      [(key, slot)])).Balanced h := by
  have hkeys : (p.slots.map Prod.fst).Nodup := hs.keys p (List.mem_of_getElem? hp)
  rw [slots_eq hp] at hnone ⊢
  have hlookup : (p.slots.filter (·.2.isLive s)).lookup key = none := by
    rw [List.lookup_eq_none_iff] at hnone ⊢
    exact fun entry hentry => hnone entry (List.mem_of_mem_filter hentry)
  rw [Pool.without, Entries.filter_of_lookup_eq_none hlookup]
  refine hs.setSlots hp ?_ (.inl hlive) (Entries.nodup_concat (Entries.nodup_filter _ hkeys) hlookup)
  rw [Holdings.slots_append, Pool.slots_filter_isLive]
  abel

end Store

namespace Pool

open DeviceMemory.Action

variable {ε : Type} {h : Holdings} {id : PoolId} {key : PoolKey}

/-- What is known of the pools is so after an allocation. -/
theorem triple_allocate_pools (known : List Pool → Prop) (allocator : AllocatorId)
    (t : ScalarType) (shape : List Nat) (zeroed : Bool) :
    Triple (fun s => known s.pools) (Buffer.allocate allocator t shape zeroed)
      (fun _ s => known s.pools) (fun s => known s.pools) := by
  refine Triple.via (fun _ s => known s.pools) ?_ fun b => ?_
  · refine Triple.bind triple_checked fun size => ?_
    exact Triple.bind (triple_total fun _ hs => hs) fun id => Triple.pure fun _ hs => hs
  · refine Triple.bind (triple_orDrop (triple_of fun s hs => ?_)) fun _ =>
      Triple.pure fun _ hs => hs
    have hpools : known (s.allocate b.allocation).2.pools := by
      rw [Store.pools_allocate]
      exact hs
    revert hpools
    rcases s.allocate b.allocation with ⟨(fault | _), s'⟩
    · cases fault with
      | error cause =>
        intro hpools
        change known (s'.dropHandle b.allocation).pools
        rwa [Store.pools_dropHandle]
      | trap => exact fun _ => trivial
    · exact fun hpools => hpools

/-- What a lookup finds has a handle, and a key that it does not find is under no slot. -/
theorem triple_find (id : PoolId) (key : PoolKey) :
    Triple (Holds h) (find id key : Action ε (Option AllocationId))
      (fun found s => Holds h s ∧
        match found with
        | some allocation => 0 < s.handles allocation
        | none => (s.slots id).lookup key = none)
      (Holds h) := by
  refine triple_total fun s hs => ?_
  cases hslot : (s.slots id).lookup key with
  | none => exact ⟨hs, hslot⟩
  | some slot =>
    obtain ⟨p, hp, hlive, hkeys⟩ := hs.exists_pool_of_lookup hslot
    have hmem : (key, slot) ∈ p.slots := Entries.mem_of_lookup (Store.slots_eq hp ▸ hslot)
    by_cases hlive : slot.isLive s
    · simp only [hlive, if_true]
      exact ⟨hs, hs.handles_pos_of_isLive hp hmem hlive⟩
    · simp only [hlive]
      refine ⟨?_, ?_⟩
      · have hforgotten := Store.Balanced.forget hs hslot
        cases slot with
        | held allocation =>
          rw [Holdings.slots_held, add_zero] at hforgotten
          exact hforgotten
        | retained allocation => exact absurd rfl hlive
      · rw [if_neg Bool.false_ne_true, Store.slots_setSlots hp]
        exact Entries.lookup_filter key _

/-- A retaining pool takes a handle of its own with the key. -/
theorem triple_remember {b : Buffer} (hid : id ∈ h.pools) :
    Triple
      (fun s => Holds (h + .handle b.allocation) s ∧ (s.slots id).lookup key = none)
      (remember id key b : Action ε Unit) (fun _ => Holds (h + .handle b.allocation))
      (Holds h) := by
  refine triple_update fun s hs => ?_
  obtain ⟨hs, hnone⟩ := hs
  have hheld : id ∈ (h + .handle b.allocation).pools := by simpa using hid
  obtain ⟨p, hp, hlive⟩ := hs.exists_pool hheld
  cases hretains : retainsOf id s with
  | false =>
    refine Store.Balanced.addSlot ?_ hp hlive hnone
    simp only [Bool.false_eq_true, if_false, Holdings.slots_held, add_zero]
    exact hs
  | true =>
    refine Store.Balanced.addSlot (s := s.addHandle b.allocation) ?_ hp hlive hnone
    exact hs.addHandle (hs.handles_pos (by simp))

/-- A buffer from a pool is a handle of its own, and one more stays with a retaining pool. -/
theorem triple_acquire (hid : id ∈ h.pools) (t : ScalarType) (shape : List Nat) :
    Triple (Holds h) (acquire id key t shape)
      (fun result => Holds (h + .handle result.1.allocation)) (Holds h) := by
  refine Triple.bind triple_checked fun size => ?_
  refine Triple.bind (triple_find id key) fun found => ?_
  cases found with
  | some allocation =>
    refine Triple.bind triple_read fun expected => ?_
    refine Triple.bind (triple_ensure fun _ hs => hs.1) fun _ => ?_
    refine Triple.via (fun _ => Holds (h + .handle allocation))
      (triple_update fun _ hs => ?_) fun _ => Triple.pure fun _ hs => hs
    exact hs.1.addHandle hs.2
  | none =>
    refine Triple.bind triple_read fun allocator => ?_
    have hallocate := (Buffer.triple_allocate (h := h) allocator t shape false).and
      (triple_allocate_pools (fun pools =>
        ((pools[id]?.map Pool.slots).getD []).lookup key = none) allocator t shape false)
    refine Triple.bind (hallocate.conseq (fun _ hs => hs) (fun _ _ hs => hs) fun _ hs => hs.1)
      fun b => ?_
    exact Triple.bind (triple_remember hid) fun _ => Triple.pure fun _ hs => hs

end Pool

end DeviceMemory
