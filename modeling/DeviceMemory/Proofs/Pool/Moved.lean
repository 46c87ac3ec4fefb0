-- SUMMARY: One command's effect on the live keys of every pool: which stay, which go and which come.
import DeviceMemory.Proofs.Pool.Onward

/-!
# Moves of live keys

A command goes onward, or it makes one key live by filing a new allocation under
it. `Store.Moved` covers both, and says for every pool in use which keys are live
afterwards (`Moved.live?_eq_some_iff`): those that the command made, and those
from before that it did not forget and whose allocation still has a handle.

Slots are well formed along the way (`SlotsFormed`): each is of the kind that its
pool keeps and names an allocation that exists, which has memory while the slot
is live and is in no other slot.
-/

namespace DeviceMemory

/-- The slot for an allocation in a pool that retains or does not. -/
def Slot.of (retains : Bool) (A : AllocationId) : Slot :=
  if retains then .retained A else .held A

@[simp] theorem Slot.allocation_of (retains : Bool) (A : AllocationId) :
    (Slot.of retains A).allocation = A := by
  cases retains <;> rfl

/-- A slot is live if its pool retains or its allocation has a handle. -/
theorem Slot.isLive_of_iff {retains : Bool} {A : AllocationId} {s : Store} :
    (Slot.of retains A).isLive s = true ↔ retains = true ∨ 0 < s.handles A := by
  cases retains <;> simp [Slot.of, Slot.isLive]

namespace Store

/-- The pool is in use, or has not been made yet. -/
def Open (s : Store) (p : PoolId) : Prop := ∀ q, s.pools[p]? = some q → 0 < q.handles

/-- Every slot is of the kind that its pool keeps and names an allocation that exists, with
    memory while the slot is live, and that is in no other slot. -/
structure SlotsFormed (s : Store) : Prop where
  known : ∀ {p : PoolId} {entry : PoolKey × Slot}, entry ∈ s.slots p →
    entry.2.allocation < s.allocations.length
  kind : ∀ {p : PoolId} {entry : PoolKey × Slot}, entry ∈ s.slots p →
    entry.2 = .of (Pool.retainsOf p s) entry.2.allocation
  memory : ∀ {p : PoolId} {entry : PoolKey × Slot}, entry ∈ s.slots p →
    entry.2.isLive s = true → (s.block? entry.2.allocation).isSome = true
  apart : ∀ {p p' : PoolId} {entry entry' : PoolKey × Slot}, entry ∈ s.slots p →
    entry' ∈ s.slots p' → entry.2.allocation = entry'.2.allocation →
      p = p' ∧ entry.1 = entry'.1

/-- What a command leaves of a store: what stays as in `Grown`, and slots that are there still
    or were made on the way. -/
structure Moved (s : Store) (written : Set AllocationId) (forgotten : Set (PoolId × PoolKey))
    (filings : Set (PoolId × PoolKey × AllocationId)) (s' : Store) : Prop
    extends Grown s written s' where
  slots : ∀ {p : PoolId} {entry : PoolKey × Slot}, entry ∈ s'.slots p →
    entry ∈ s.slots p ∨
      (p, entry.1, entry.2.allocation) ∈ filings ∧
        entry.2 = .of (Pool.retainsOf p s) entry.2.allocation
  kept : ∀ {p : PoolId} {key : PoolKey} {slot : Slot}, (key, slot) ∈ s.slots p →
    slot.allocation < s.allocations.length → slot.isLive s' = true → 0 < s'.poolHandles p →
    (p, key) ∉ forgotten → (key, slot) ∈ s'.slots p
  forgets : ∀ {p : PoolId} {key : PoolKey} {slot : Slot}, (p, key) ∈ forgotten →
    (key, slot) ∉ s'.slots p
  filed : ∀ {p : PoolId} {key : PoolKey} {A : AllocationId}, (p, key, A) ∈ filings →
    (Slot.of (Pool.retainsOf p s) A).isLive s' = true → 0 < s'.poolHandles p →
      (key, .of (Pool.retainsOf p s) A) ∈ s'.slots p
  fresh : ∀ {p : PoolId} {key : PoolKey} {A : AllocationId}, (p, key, A) ∈ filings →
    p < s.pools.length ∧ s.allocations.length ≤ A ∧ A < s'.allocations.length ∧
      Pool.live? p key s = none ∧ (0 < s'.handles A → (s'.block? A).isSome = true)
  once : ∀ {p p' : PoolId} {key key' : PoolKey} {A : AllocationId}, (p, key, A) ∈ filings →
    (p', key', A) ∈ filings → p = p' ∧ key = key'

variable {s s' s₁ : Store} {written : Set AllocationId} {forgotten : Set (PoolId × PoolKey)}
  {filings : Set (PoolId × PoolKey × AllocationId)} {h h' : Holdings}

theorem Open.poolHandles_pos {p : PoolId} (hp : s.Open p) (hlt : p < s.pools.length) :
    0 < s.poolHandles p := by
  have hsome := List.getElem?_eq_getElem hlt
  rw [poolHandles_eq hsome]
  exact hp _ hsome

/-- A pool that is in use was never dead. -/
theorem Grown.isOpen (hs : s.Grown written s') {p : PoolId} (hp : s'.Open p) : s.Open p := by
  intro q hq
  obtain ⟨q', hq', -, -, hdead⟩ := hs.pools hq
  exact Nat.pos_of_ne_zero fun hzero => Nat.ne_of_gt (hp q' hq') (hdead hzero)

/-! ## How commands move -/

theorem Onward.moved (hs : s.Onward written forgotten s') : s.Moved written forgotten ∅ s' where
  toGrown := hs.toGrown
  slots hentry := .inl (hs.slots hentry)
  kept := hs.kept
  forgets := hs.forgets
  filed hmade := absurd hmade (Set.notMem_empty _)
  fresh hmade := absurd hmade (Set.notMem_empty _)
  once hmade := absurd hmade (Set.notMem_empty _)

section Filing

variable {p : PoolId} {key : PoolKey} {A : AllocationId} {q : Pool}

/-- Beside the new slot there are those that are live. -/
theorem mem_slots_filed (hq : s.pools[p]? = some q) {k : PoolKey} {slot : Slot} :
    (k, slot) ∈ (Pool.filed p key A s).slots p ↔
      ((k, slot) ∈ s.slots p ∧ slot.isLive (Pool.filed p key A s) = true ∧ k ≠ key) ∨
        (k = key ∧ slot = .of (Pool.retainsOf p s) A) := by
  have hlive : slot.isLive (Pool.filed p key A s) =
      slot.isLive (if Pool.retainsOf p s then s.addHandle A else s) :=
    Slot.isLive_congr rfl
  have hslots : (if Pool.retainsOf p s then s.addHandle A else s).slots p = s.slots p := by
    split <;> rfl
  have hq' : (if Pool.retainsOf p s then s.addHandle A else s).pools[p]? = some q := by
    split <;> exact hq
  rw [hlive, Pool.filed, slots_setSlots hq', hslots]
  simp only [Pool.without, List.mem_append, List.mem_filter, List.mem_singleton, Prod.mk.injEq,
    decide_eq_true_eq, and_assoc]
  exact Iff.rfl

theorem slots_filed_of_ne {i : PoolId} (hi : i ≠ p) :
    (Pool.filed p key A s).slots i = s.slots i := by
  rw [Pool.filed, slots_setSlots_of_ne hi]
  split <;> rfl

theorem poolHandles_filed (i : PoolId) :
    (Pool.filed p key A s).poolHandles i = s.poolHandles i := by
  rw [Pool.filed, poolHandles_setSlots]
  split <;> rfl

/-- Filing an allocation makes a handle for a pool that retains. -/
theorem handles_filed (hA : 0 < s.handles A) (i : AllocationId) :
    (Pool.filed p key A s).handles i =
      s.handles i + if Pool.retainsOf p s = true ∧ i = A then 1 else 0 := by
  have hsame : (Pool.filed p key A s).handles i =
      (if Pool.retainsOf p s then s.addHandle A else s).handles i := rfl
  rw [hsame]
  split
  next hretains =>
    rw [handles_addHandle hA]
    simp [hretains]
  next hretains => simp [hretains]

theorem block?_filed (i : AllocationId) : (Pool.filed p key A s).block? i = s.block? i := by
  have hsame : (Pool.filed p key A s).block? i =
      (if Pool.retainsOf p s then s.addHandle A else s).block? i := rfl
  rw [hsame]
  split
  next => exact block?_addHandle A i s
  next => rfl

theorem length_filed (p : PoolId) (key : PoolKey) (A : AllocationId) :
    (Pool.filed p key A s).allocations.length = s.allocations.length := by
  have hsame : (Pool.filed p key A s).allocations =
      (if Pool.retainsOf p s then s.addHandle A else s).allocations := rfl
  rw [hsame]
  split
  next => exact List.length_modify ..
  next => rfl

theorem grown_setSlots (s : Store) (p : PoolId) (new : List (PoolKey × Slot)) :
    s.Grown ∅ (s.setSlots p new) where
  made ha := ⟨_, ha, rfl, rfl⟩
  gone ha hzero := (handles_eq (s := s.setSlots p new) ha).trans hzero
  memory hblock _ := ⟨_, hblock, rfl, fun _ => rfl⟩
  pools hq := by
    rw [getElem?_setSlots, hq, Option.map_some]
    split
    next => exact ⟨_, rfl, rfl, rfl, fun hzero => hzero⟩
    next => exact ⟨_, rfl, rfl, rfl, fun hzero => hzero⟩

theorem grown_filed (p : PoolId) (key : PoolKey) (hA : 0 < s.handles A) :
    s.Grown ∅ (Pool.filed p key A s) := by
  have hhandle : s.Grown ∅ (if Pool.retainsOf p s then s.addHandle A else s) := by
    split
    next => exact (Onward.addHandle hA).toGrown
    next => exact (Onward.refl s).toGrown
  rw [← Set.union_self (∅ : Set AllocationId)]
  exact hhandle.trans (grown_setSlots _ p _)

/-- A command moves on by filing a new allocation with memory under a key that is not live. -/
theorem Moved.of_filed (hbalanced : s.Balanced h) (hs : s.Onward ∅ ∅ s₁)
    (hp : p < s.pools.length) (hnone : Pool.live? p key s = none)
    (hnew : s.allocations.length ≤ A) (hpos : 0 < s₁.handles A)
    (hblock : (s₁.block? A).isSome = true) (hs' : (Pool.filed p key A s₁).Onward ∅ ∅ s') :
    s.Moved ∅ ∅ {(p, key, A)} s' := by
  have hgrown : s.Grown ∅ s' := by
    simpa using (hs.toGrown.trans (grown_filed p key hpos)).trans hs'.toGrown
  have hq := List.getElem?_eq_getElem (Nat.lt_of_lt_of_le hp hs.length_pools_le)
  have hretains : Pool.retainsOf p s₁ = Pool.retainsOf p s := hs.retainsOf_eq hp
  obtain ⟨a, ha, -⟩ := exists_of_handles_pos hpos
  have hA : A < (Pool.filed p key A s₁).allocations.length :=
    (length_filed p key A).symm ▸ (List.getElem?_eq_some_iff.mp ha).1
  refine ⟨hgrown, fun {i entry} hentry => ?_, fun {i k slot} hentry hid hlive huse _ => ?_,
    fun hmem => absurd hmem (Set.notMem_empty _), ?_, ?_, ?_⟩
  · have hmid := hs'.slots hentry
    by_cases hi : i = p
    · subst hi
      rcases (mem_slots_filed hq).mp hmid with ⟨hold, -, -⟩ | ⟨hkey, hslot⟩
      · exact .inl (hs.slots hold)
      · refine .inr ⟨?_, ?_⟩
        · rw [hkey, hslot, Slot.allocation_of]
          rfl
        · rw [hslot, Slot.allocation_of, hretains]
    · exact .inl (hs.slots (slots_filed_of_ne hi ▸ hmid))
  · have hid' := Nat.lt_of_lt_of_le hid (Nat.le_trans hs.length_le (length_filed p key A).ge)
    have hi := lt_length_of_mem_slots hentry
    have hlength : s.pools.length ≤ (Pool.filed p key A s₁).pools.length :=
      Nat.le_trans hs.length_pools_le (grown_filed p key hpos).length_pools_le
    have hlive' := hs'.isLive hid' hlive
    have huse' := hs'.poolHandles_pos (Nat.lt_of_lt_of_le hi hlength) huse
    have hlive₁ : slot.isLive s₁ = true :=
      (grown_filed p key hpos).isLive (Nat.lt_of_lt_of_le hid hs.length_le) hlive'
    rw [poolHandles_filed] at huse'
    have hmid := hs.kept hentry hid hlive₁ huse' (Set.notMem_empty _)
    refine hs'.kept ?_ hid' hlive huse (Set.notMem_empty _)
    by_cases hip : i = p
    · subst hip
      refine (mem_slots_filed hq).mpr (.inl ⟨hmid, hlive', ?_⟩)
      rintro rfl
      have hdead := Pool.live?_eq_none_iff.mp hnone slot
        ((Pool.mem_of_lookup_eq_some hbalanced).mpr hentry)
      rw [hs.isLive hid hlive₁] at hdead
      cases hdead
    · rwa [slots_filed_of_ne hip]
  · rintro _ _ _ ⟨⟩ hlive huse
    rw [← hretains] at hlive ⊢
    refine hs'.kept ((mem_slots_filed hq).mpr (.inr ⟨rfl, rfl⟩)) ?_ hlive huse (Set.notMem_empty _)
    rwa [Slot.allocation_of]
  · rintro _ _ _ ⟨⟩
    refine ⟨hp, hnew, Nat.lt_of_lt_of_le hA hs'.length_le, hnone, fun hheld => ?_⟩
    obtain ⟨block, hblock⟩ := Option.isSome_iff_exists.mp hblock
    obtain ⟨block', hblock', -⟩ := hs'.memory ((block?_filed A).trans hblock) hheld
    rw [hblock']
    rfl
  · rintro _ _ _ _ _ ⟨⟩ ⟨⟩
    exact ⟨rfl, rfl⟩

end Filing

/-! ## Acquisitions -/

section Acquisition

variable {p : PoolId} {key : PoolKey} {t : ScalarType} {shape : List Nat} {b : Buffer}
  {acquisition : Acquisition}

/-- What a fresh acquisition made stays with its handle when it is filed. -/
theorem handles_pos_filed (hs : s.Since ∅ {b.allocation} s₁) :
    0 < (Pool.filed p key b.allocation s₁).handles b.allocation := by
  have hpos : 0 < s₁.handles b.allocation := hs.handles_pos (.inl (Multiset.mem_singleton_self _))
  rw [handles_filed hpos]
  exact Nat.lt_of_lt_of_le hpos (Nat.le_add_right ..)

/-- An acquisition moves on by filing what it made, if it made something. -/
theorem Moved.of_acquired (hbalanced : s.Balanced h) (hp : p < s.pools.length)
    (ha : Pool.Acquired p key t shape s (b, acquisition) s₁) (hs' : s₁.Onward ∅ ∅ s') :
    s.Moved ∅ ∅ {entry | acquisition.isFresh = true ∧ entry = (p, key, b.allocation)} s' := by
  cases ha with
  | @reused A size hlive hsize hsame =>
    have hnone (entry : PoolId × PoolKey × AllocationId) :
        {e | Acquisition.reused.isFresh = true ∧ e = entry} = ∅ := by
      simp [Acquisition.isFresh]
    rw [hnone]
    exact ((Onward.addHandle (Pool.handles_pos_of_live hbalanced hlive)).andThen hs').moved
  | fresh hnone hs hnew hcovers =>
    have hone : {entry | Acquisition.fresh.isFresh = true ∧ entry = (p, key, b.allocation)} =
        {(p, key, b.allocation)} := by
      simp [Acquisition.isFresh]
    rw [hone]
    obtain ⟨a, ha, hmemory, -⟩ := hcovers
    refine .of_filed hbalanced ((Onward.pruned hbalanced p key).andThen (.of_since hs)) hp hnone
      hnew (hs.handles_pos (.inl (Multiset.mem_singleton_self _))) ?_ hs'
    rwa [Store.block?, ha, Option.bind_some]

/-- What was acquired covers its allocation, whether that is new or was there before. -/
theorem SlotsFormed.covers (hformed : s.SlotsFormed) (hbalanced : s.Balanced h)
    (ha : Pool.Acquired p key t shape s (b, acquisition) s₁) : b.Covers t shape s₁ := by
  cases ha with
  | @reused A size hlive hsize hsame =>
    have hpos := Pool.handles_pos_of_live hbalanced hlive
    have hhandle := Onward.addHandle hpos
    obtain ⟨slot, hlookup, hslot, rfl⟩ := Pool.live?_eq_some_iff.mp hlive
    have hmemory := hformed.memory (Entries.mem_of_lookup hlookup) hslot
    obtain ⟨a, ha, -⟩ := exists_of_handles_pos hpos
    rw [Store.block?, ha, Option.bind_some] at hmemory
    have hsize' : a.size = size := by
      rwa [Store.sizeOf, ha] at hsame
    refine hhandle.toGrown.covers ⟨a, ha, hmemory, hsize' ▸ hsize, by rw [hsize']; rfl⟩ ?_
    rw [handles_addHandle hpos]
    exact Nat.lt_of_lt_of_le hpos (Nat.le_add_right ..)
  | fresh hnone hs hnew hcovers =>
    have hpos := hs.handles_pos (.inl (Multiset.mem_singleton_self _))
    exact (grown_filed p key hpos).covers hcovers (handles_pos_filed hs)

end Acquisition

/-! ## What moves leave -/

namespace Moved

/-- Slots stay well formed. -/
theorem slotsFormed (hs : s.Moved written forgotten filings s') (hbalanced : s'.Balanced h')
    (hformed : s.SlotsFormed) : s'.SlotsFormed := by
  have hlive_pos {p : PoolId} {entry : PoolKey × Slot} (hentry : entry ∈ s'.slots p)
      (hlive : entry.2.isLive s' = true) : 0 < s'.handles entry.2.allocation :=
    Pool.handles_pos_of_live hbalanced (Pool.live?_eq_some_iff.mpr
      ⟨entry.2, (Pool.mem_of_lookup_eq_some hbalanced).mpr hentry, hlive, rfl⟩)
  refine ⟨fun {p entry} hentry => ?_, fun {p entry} hentry => ?_,
    fun {p entry} hentry hlive => ?_, fun {p p' entry entry'} hentry hentry' hsame => ?_⟩
  · rcases hs.slots hentry with hold | ⟨hmade, -⟩
    · exact Nat.lt_of_lt_of_le (hformed.known hold) hs.length_le
    · exact (hs.fresh hmade).2.2.1
  · rcases hs.slots hentry with hold | ⟨hmade, hslot⟩
    · rw [hs.retainsOf_eq (lt_length_of_mem_slots hold)]
      exact hformed.kind hold
    · rw [hs.retainsOf_eq (hs.fresh hmade).1]
      exact hslot
  · have hpos := hlive_pos hentry hlive
    rcases hs.slots hentry with hold | ⟨hmade, -⟩
    · obtain ⟨block, hblock⟩ := Option.isSome_iff_exists.mp
        (hformed.memory hold (hs.isLive (hformed.known hold) hlive))
      obtain ⟨block', hblock', -⟩ := hs.memory hblock hpos
      rw [hblock']
      rfl
    · exact (hs.fresh hmade).2.2.2.2 hpos
  · rcases hs.slots hentry with hold | ⟨hmade, -⟩ <;>
      rcases hs.slots hentry' with hold' | ⟨hmade', -⟩
    · exact hformed.apart hold hold' hsame
    · exact absurd (hformed.known hold) (Nat.not_lt.mpr (hsame ▸ (hs.fresh hmade').2.1))
    · exact absurd (hformed.known hold') (Nat.not_lt.mpr (hsame ▸ (hs.fresh hmade).2.1))
    · exact hs.once hmade (hsame ▸ hmade')

/-- A key is live in a pool in use if the command made it so, or if it was live, was not
    forgotten, and its allocation still has a handle or the pool retains. -/
theorem live?_eq_some_iff (hs : s.Moved written forgotten filings s') (hbalanced : s.Balanced h)
    (hbalanced' : s'.Balanced h') (hformed : s.SlotsFormed) {p : PoolId} {key : PoolKey}
    {A : AllocationId} (hopen : s'.Open p) :
    Pool.live? p key s' = some A ↔
      (Pool.retainsOf p s' = true ∨ 0 < s'.handles A) ∧
        ((p, key, A) ∈ filings ∨ Pool.live? p key s = some A ∧ (p, key) ∉ forgotten) := by
  constructor
  · intro hlive
    obtain ⟨slot, hlookup, hslot, rfl⟩ := Pool.live?_eq_some_iff.mp hlive
    have hentry := Entries.mem_of_lookup hlookup
    refine ⟨.inr (Pool.handles_pos_of_live hbalanced' hlive), ?_⟩
    rcases hs.slots hentry with hold | ⟨hmade, -⟩
    · refine .inr ⟨Pool.live?_eq_some_iff.mpr ⟨slot, ?_, hs.isLive (hformed.known hold) hslot,
        rfl⟩, fun hmem => hs.forgets hmem hentry⟩
      exact (Pool.mem_of_lookup_eq_some hbalanced).mpr hold
    · exact .inl hmade
  · have huse (hp : p < s.pools.length) : 0 < s'.poolHandles p :=
      hopen.poolHandles_pos (Nat.lt_of_lt_of_le hp hs.length_pools_le)
    rintro ⟨hheld, hmade | ⟨hlive, hnot⟩⟩
    · have hp := (hs.fresh hmade).1
      rw [hs.retainsOf_eq hp, ← Slot.isLive_of_iff] at hheld
      refine Pool.live?_eq_some_iff.mpr ⟨_, ?_, hheld, Slot.allocation_of _ A⟩
      exact (Pool.mem_of_lookup_eq_some hbalanced').mpr (hs.filed hmade hheld (huse hp))
    · obtain ⟨slot, hlookup, hslot, rfl⟩ := Pool.live?_eq_some_iff.mp hlive
      have hentry := Entries.mem_of_lookup hlookup
      have hkind := hformed.kind hentry
      rw [hs.retainsOf_eq (lt_length_of_mem_slots hentry), ← Slot.isLive_of_iff, ← hkind] at hheld
      refine Pool.live?_eq_some_iff.mpr ⟨slot, ?_, hheld, rfl⟩
      exact (Pool.mem_of_lookup_eq_some hbalanced').mpr
        (hs.kept hentry (hformed.known hentry) hheld (huse (lt_length_of_mem_slots hentry)) hnot)

end Moved

end Store

namespace Pool.Acquired

variable {p : PoolId} {key : PoolKey} {t : ScalarType} {shape : List Nat} {s s' : Store}
  {b : Buffer} {acquisition : Acquisition} {h : Holdings}

theorem isFresh_iff (hs : Acquired p key t shape s (b, acquisition) s') :
    acquisition.isFresh = true ↔ live? p key s = none := by
  cases hs with
  | reused hlive => simp [Acquisition.isFresh, hlive]
  | fresh hnone => simp [Acquisition.isFresh, hnone]

theorem live?_of_reused (hs : Acquired p key t shape s (b, acquisition) s')
    (hreused : acquisition.isFresh = false) : live? p key s = some b.allocation := by
  cases hs with
  | reused hlive => exact hlive
  | fresh hnone => cases hreused

/-- No acquisition changes a byte. -/
theorem block?_eq (hs : Acquired p key t shape s (b, acquisition) s') (hbalanced : s.Balanced h)
    {id : AllocationId} {block : Block} (hblock : s.block? id = some block) :
    s'.block? id = some block := by
  cases hs with
  | reused hlive => exact (Store.block?_addHandle _ id s).trans hblock
  | fresh hnone hs hnew hcovers =>
    obtain ⟨block', hblock', -, hsame⟩ := hs.memory
      ((handles_pruned ..).symm ▸ hbalanced.handles_pos_of_block? hblock)
      ((block?_pruned ..).trans hblock)
    rw [Store.block?_filed, hblock', hsame (Set.notMem_empty id)]

/-- A fresh acquisition is the only handle to what it made, beside the slot of a pool that
    retains. -/
theorem handles_fresh
    (hs : Acquired p key t shape s (b, acquisition) s') (hnone : live? p key s = none) :
    s.handles b.allocation = 0 ∧
      s'.handles b.allocation = (if retainsOf p s then 2 else 1) ∧
      ∀ id ≠ b.allocation, s'.handles id = s.handles id := by
  cases hs with
  | reused hlive hsize hsame =>
    rw [hnone] at hlive
    cases hlive
  | @fresh _ s₁ _ hs hnew hcovers =>
    have hpos : 0 < s₁.handles b.allocation := hs.handles_pos (.inl (Multiset.mem_singleton_self _))
    have hretains : retainsOf p s₁ = retainsOf p s := by
      rw [retainsOf, hs.pools, ← retainsOf, pruned_of_none hnone, Store.retainsOf_setSlots]
    have hzero : s.handles b.allocation = 0 := by
      rw [Store.handles, List.getElem?_eq_none hnew]
      rfl
    refine ⟨hzero, ?_, fun id hid => ?_⟩
    · rw [Store.handles_filed hpos, hs.handles, handles_pruned, hzero, hretains,
        Multiset.count_singleton_self]
      cases retainsOf p s <;> simp
    · rw [Store.handles_filed hpos, hs.handles, handles_pruned]
      simp [hid]

end Pool.Acquired

end DeviceMemory
