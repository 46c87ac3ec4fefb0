-- SUMMARY: The elementary changes of a store, and what actions of each form may change, however they end.
import DeviceMemory.Context.Basic
import DeviceMemory.Proofs.Store.Grants
import DeviceMemory.Proofs.Store.Entries
import Mathlib.Logic.Relation
import Mathlib.Order.Interval.Set.Basic

/-!
# Changes

Every operation works on its store by a few elementary changes (`Store.Change`).
`s.Leads written s'` says that such changes lead from `s` to `s'` and that they
overwrite memory of allocations in `written` only, those apart that were made on
the way. It asks nothing of `s`, and it holds of traps as well, so a property that
no elementary change breaks holds after every history.

An action leads on by `written` (`Action.Leads`) if this is so for each end that it
may have; where it fails with a cause it has written nothing at all.
-/

namespace DeviceMemory

namespace Store

/-! ## Elementary changes -/

/-- One change of a store. Only allocations in `written` are overwritten. -/
inductive Change (written : Set AllocationId) : Store → Store → Prop where
  /-- Pools, the journal and a kept trap. -/
  | aside (s : Store) (pools : List Pool) (journal : List Event) (trapped : Bool) :
      Change written s { s with pools := pools, journal := journal, trapped := trapped }
  | stack (s : Store) (base : Base) (layers : List Layer) :
      Change written s (s.addStack (Stack.new base layers)).2
  | state {s : Store} {id : AllocatorId} {stack : Stack} (hid : s.allocators[id]? = some stack)
      (state : Layered stack.base.State stack.layers) :
      Change written s
        { s with allocators := s.allocators.set id { stack with state := state } }
  | made (s : Store) (allocator : AllocatorId) (size : Nat) (zeroed : Bool) :
      Change written s (s.addAllocation allocator size zeroed).2
  | counted {s : Store} {id : AllocationId} {a : Allocation} (ha : s.allocations[id]? = some a)
      (handles : Nat) : Change written s (s.setAllocation id { a with handles := handles })
  | unused {s : Store} {id : AllocationId} {a : Allocation} (ha : s.allocations[id]? = some a) :
      Change written s (s.setAllocation id { a with handles := 0, block := none })
  /-- Memory on first use is fresh. -/
  | granted {s : Store} {id : AllocationId} {a : Allocation} {block : Block}
      (ha : s.allocations[id]? = some a) (hfresh : block.Fresh a.size a.zeroed) :
      Change written s (s.setAllocation id { a with block := some block })
  /-- Memory that is overwritten keeps its size. -/
  | overwritten {s : Store} {id : AllocationId} {a : Allocation} {block block' : Block}
      (ha : s.allocations[id]? = some a) (hblock : a.block = some block)
      (hsize : block'.size = block.size) (hid : id ∈ written) :
      Change written s (s.setAllocation id { a with block := some block' })

variable {s s' s'' : Store} {written written' : Set AllocationId}

theorem Change.mono (h : s.Change written s') (hle : written ⊆ written') :
    s.Change written' s' := by
  cases h with
  | aside => exact .aside ..
  | stack => exact .stack ..
  | state hid state => exact .state hid state
  | made => exact .made ..
  | counted ha => exact .counted ha _
  | unused ha => exact .unused ha
  | granted ha hfresh => exact .granted ha hfresh
  | overwritten ha hblock hsize hid => exact .overwritten ha hblock hsize (hle hid)

theorem Change.length_le (h : s.Change written s') :
    s.allocations.length ≤ s'.allocations.length := by
  cases h <;> simp [addStack, addAllocation, setAllocation]

/-! ## Sequences of changes -/

/-- Elementary changes that overwrite allocations in `written`, or newer ones than those of
    the first store. -/
def Leads (s : Store) (written : Set AllocationId) (s' : Store) : Prop :=
  Relation.ReflTransGen (Change (written ∪ Set.Ici s.allocations.length)) s s'

namespace Leads

theorem refl (s : Store) : s.Leads written s := Relation.ReflTransGen.refl

theorem of_change (h : s.Change written s') : s.Leads written s' :=
  .single (h.mono Set.subset_union_left)

/-- What holds of a store and survives every change holds in the end. -/
theorem preserves (h : s.Leads written s') {P : Store → Prop}
    (hstep : ∀ {s₁ s₂ : Store}, s₁.Change (written ∪ Set.Ici s.allocations.length) s₂ → P s₁ →
      P s₂)
    (hs : P s) : P s' := by
  unfold Leads at h
  induction h with
  | refl => exact hs
  | tail _ hchange ih => exact hstep hchange ih

theorem length_le (h : s.Leads written s') : s.allocations.length ≤ s'.allocations.length :=
  h.preserves (P := fun s₁ => s.allocations.length ≤ s₁.allocations.length)
    (fun hchange hle => Nat.le_trans hle hchange.length_le) (Nat.le_refl _)

/-- Allocations that are newer may be overwritten. -/
theorem absorb (h : s.Leads written s')
    (hle : written ⊆ written' ∪ Set.Ici s.allocations.length) : s.Leads written' s' :=
  Relation.ReflTransGen.mono
    (fun _ _ hchange => hchange.mono (Set.union_subset hle Set.subset_union_right)) _ _ h

theorem mono (h : s.Leads written s') (hle : written ⊆ written') : s.Leads written' s' :=
  h.absorb (hle.trans Set.subset_union_left)

theorem trans (h : s.Leads written s') (h' : s'.Leads written s'') : s.Leads written s'' := by
  have hnewer : Set.Ici s'.allocations.length ⊆ Set.Ici s.allocations.length :=
    Set.Ici_subset_Ici.mpr h.length_le
  refine Relation.ReflTransGen.trans h ?_
  exact Relation.ReflTransGen.mono
    (fun _ _ hchange => hchange.mono (Set.union_subset_union_right _ hnewer)) _ _ h'

/-- An allocator keeps its base and its layers. -/
theorem getElem?_allocators (h : s.Leads written s') {id : AllocatorId} {stack : Stack}
    (hid : s.allocators[id]? = some stack) :
    ∃ state, s'.allocators[id]? = some { stack with state := state } := by
  refine h.preserves
    (P := fun s₁ => ∃ state, s₁.allocators[id]? = some { stack with state := state })
    (fun {s₁ s₂} hchange hs₁ => ?_) ⟨stack.state, hid⟩
  obtain ⟨state, hstate⟩ := hs₁
  have hlt : id < s₁.allocators.length := (List.getElem?_eq_some_iff.mp hstate).1
  cases hchange with
  | stack => exact ⟨state, (List.getElem?_append_left hlt).trans hstate⟩
  | @state i other hi state' =>
    by_cases heq : i = id
    · subst heq
      cases hi.symm.trans hstate
      exact ⟨state', List.getElem?_set_self hlt⟩
    · exact ⟨state, (List.getElem?_set_ne heq).trans hstate⟩
  | _ => exact ⟨state, hstate⟩

/-! ## Operations of the store -/

theorem aside (s : Store) (pools : List Pool) (journal : List Event) (trapped : Bool) :
    s.Leads written { s with pools := pools, journal := journal, trapped := trapped } :=
  of_change (.aside ..)

theorem alloc (s : Store) (id : AllocatorId) (size : Nat) (zeroed : Bool) :
    s.Leads written (s.alloc id size zeroed).2 := by
  unfold Store.alloc
  split
  next => exact refl s
  next stack hid => exact of_change (.state hid (stack.alloc size zeroed).2.state)

/-- An allocator that takes memory back changes its state only, and may trap. -/
theorem giveBack (s : Store) (id : AllocatorId) {change : Stack → Return Stack}
    (hchange : ∀ stack, ∃ result : Return (Layered stack.base.State stack.layers),
      change stack = result.map fun state => { stack with state := state }) :
    s.Leads written (s.giveBack id change) := by
  unfold Store.giveBack
  cases hid : s.allocators[id]? with
  | none => exact refl s
  | some stack =>
    obtain ⟨result, hresult⟩ := hchange stack
    rw [Option.map_some, hresult]
    cases result with
    | done state => exact of_change (.state hid state)
    | trapped state => exact (of_change (.state hid state)).trans (aside ..)

theorem free (s : Store) (id : AllocatorId) (block : Block) :
    s.Leads written (s.free id block) :=
  giveBack s id fun _ => ⟨_, rfl⟩

theorem trim (s : Store) (id : AllocatorId) : s.Leads written (s.trim id) :=
  giveBack s id fun _ => ⟨_, rfl⟩

theorem allocate (s : Store) (id : AllocationId) : s.Leads written (s.allocate id).2 := by
  cases ha : s.allocations[id]? with
  | none =>
    simp only [Store.allocate, ha]
    exact refl s
  | some a =>
    simp only [Store.allocate, ha]
    split
    next => exact refl s
    next hnone =>
      have halloc : s.Leads written (s.alloc a.allocator a.size a.zeroed).2 := alloc ..
      have hallocations := allocations_alloc a.allocator a.size a.zeroed s
      rcases hgrant : s.alloc a.allocator a.size a.zeroed with ⟨fault | block, s'⟩
      · rwa [hgrant] at halloc
      · rw [hgrant] at halloc hallocations
        exact halloc.trans (of_change (.granted (hallocations ▸ ha) (fresh_of_alloc hgrant)))

theorem addHandle (s : Store) (id : AllocationId) : s.Leads written (s.addHandle id) := by
  cases ha : s.allocations[id]? with
  | none =>
    have hsame : s.addHandle id = s := by
      rw [Store.addHandle, List.modify_eq_self (List.getElem?_eq_none_iff.mp ha)]
    rw [hsame]
    exact refl s
  | some a =>
    have hset : s.addHandle id = s.setAllocation id { a with handles := a.handles + 1 } := by
      rw [Store.addHandle, Entries.modify_eq_set ha, setAllocation]
    rw [hset]
    exact of_change (.counted ha _)

theorem dropHandle (s : Store) (id : AllocationId) : s.Leads written (s.dropHandle id) := by
  unfold Store.dropHandle
  split
  next => exact refl s
  next a ha =>
    split
    next => exact of_change (.counted ha _)
    next =>
      split
      next => exact of_change (.unused ha)
      next block hblock => exact (of_change (.unused ha)).trans (free ..)

theorem dropSlot (s : Store) (slot : Slot) : s.Leads written (s.dropSlot slot) := by
  cases slot with
  | held id => exact refl s
  | retained id => exact dropHandle s id

theorem dropSlots (s : Store) (slots : List (PoolKey × Slot)) :
    s.Leads written (slots.foldl (fun s (_, slot) => s.dropSlot slot) s) := by
  induction slots generalizing s with
  | nil => exact refl s
  | cons entry slots ih => exact (dropSlot s entry.2).trans (ih _)

theorem clearPool (s : Store) (id : PoolId) : s.Leads written (s.clearPool id) :=
  (aside ..).trans (dropSlots ..)

theorem dropPoolHandle (s : Store) (id : PoolId) : s.Leads written (s.dropPoolHandle id) := by
  unfold Store.dropPoolHandle
  split
  next => exact refl s
  next pool hpool =>
    have hleft : s.Leads written
        { s with pools := s.pools.set id { pool with handles := pool.handles - 1 } } := aside ..
    dsimp only
    split
    next => exact hleft
    next => exact hleft.trans (clearPool ..)

theorem release (s : Store) (id : PoolId) (key : PoolKey) :
    s.Leads written (Pool.release id key s).2 := by
  unfold Pool.release
  split
  next => exact refl s
  next slot => exact (aside ..).trans (dropSlot ..)

theorem releaseContext (s : Store) (c : Context) : s.Leads written (c.release s) := by
  unfold Context.release
  split
  next => exact refl s
  next => exact (clearPool ..).trans (trim ..)

theorem tearDown (s : Store) (c : Context) : s.Leads written (c.tearDown s).2 := by
  refine (releaseContext s c).trans ?_
  simp only [Context.tearDown]
  split
  next => exact aside ..
  next => exact refl _

theorem dropContext (s : Store) (c : Context) : s.Leads written (c.drop s) := by
  simp only [Context.drop]
  split
  next => exact dropPoolHandle ..
  next => exact (tearDown s c).trans (dropPoolHandle ..)

end Leads

end Store

/-! ## Actions -/

/-- What an operation may have written, going by its end: nothing if it failed with a cause. -/
def writtenBy {ε α : Type} (written : Set AllocationId) : Except (Fault ε) α → Set AllocationId
  | .error (.error _) => ∅
  | _ => written

theorem writtenBy_subset {ε α : Type} (written : Set AllocationId)
    (outcome : Except (Fault ε) α) : writtenBy written outcome ⊆ written := by
  rcases outcome with ⟨cause | _⟩ | a
  · exact Set.empty_subset _
  · exact subset_rfl
  · exact subset_rfl

namespace Action

variable {ε δ α β : Type} {written : Set AllocationId} {act : Action ε α} {next : α → Action ε β}

/-- However it ends, the action changes the store elementarily and overwrites at most the
    allocations in `written`, and none if it fails with a cause. -/
def Leads (written : Set AllocationId) (act : Action ε α) : Prop :=
  ∀ s : Store, s.Leads (writtenBy written (act.exec s).1) (act.exec s).2

theorem leads_of {f : Store → Except (Fault ε) α × Store} (h : ∀ s : Store, s.Leads ∅ (f s).2) :
    (of f).Leads written :=
  fun s => (h s).mono (Set.empty_subset _)

theorem leads_update {f : Store → Store} (h : ∀ s : Store, s.Leads ∅ (f s)) :
    (update f : Action ε Unit).Leads written :=
  leads_of h

theorem leads_total {f : Store → α × Store} (h : ∀ s : Store, s.Leads ∅ (f s).2) :
    (total f : Action ε α).Leads written :=
  leads_of h

theorem leads_pure (a : α) : (pure a : Action ε α).Leads written := fun s => .refl s

theorem leads_read (f : Store → α) : (read f : Action ε α).Leads written := fun s => .refl s

theorem leads_fail (cause : ε) : (fail cause : Action ε α).Leads written := fun s => .refl s

theorem leads_trap : (trap : Action ε α).Leads written := fun s => .refl s

theorem leads_checked (value : Option α) : (checked value : Action ε α).Leads written := by
  cases value with
  | none => exact leads_trap
  | some a => exact leads_pure a

theorem leads_ensure (condition : Prop) [Decidable condition] (cause : ε) :
    (ensure condition cause).Leads written := by
  unfold ensure
  split
  next => exact leads_pure ()
  next => exact leads_fail cause

/-- What comes after a failure is not done, so what comes before it must not write. A part may
    write to what the part before it made. -/
theorem Leads.bind_made (h : act.Leads ∅) (made : α → Set AllocationId)
    (hnext : ∀ a, (next a).Leads (made a))
    (hmade : ∀ s a s₁, act.exec s = (.ok a, s₁) →
      made a ⊆ written ∪ Set.Ici s.allocations.length) :
    (act >>= next).Leads written := by
  intro s
  have hact := (h s).mono (writtenBy_subset ∅ _)
  rcases hexec : act.exec s with ⟨fault | a, s₁⟩
  · rw [exec_bind_of_error hexec]
    rw [hexec] at hact
    exact hact.mono (Set.empty_subset _)
  · rw [exec_bind_of_ok hexec]
    rw [hexec] at hact
    have hrest := (hact.mono (Set.empty_subset _)).trans (hnext a s₁)
    rcases hend : (next a).exec s₁ with ⟨⟨cause | _⟩ | b, s₂⟩ <;> rw [hend] at hrest
    · exact hrest
    · exact hrest.absorb (hmade s a s₁ hexec)
    · exact hrest.absorb (hmade s a s₁ hexec)

theorem Leads.bind (h : act.Leads ∅) (hnext : ∀ a, (next a).Leads written) :
    (act >>= next).Leads written :=
  h.bind_made (fun _ => written) hnext fun _ _ _ _ => Set.subset_union_left

/-- After the last write the rest must not fail. -/
theorem Leads.bind_trap (h : act.Leads written)
    (hnext : ∀ a s, ((next a).exec s).2 = s ∧ ∀ cause, ((next a).exec s).1 ≠ .error (.error cause)) :
    (act >>= next).Leads written := by
  intro s
  have hact := h s
  rcases hexec : act.exec s with ⟨fault | a, s₁⟩
  · rw [exec_bind_of_error hexec]
    rw [hexec] at hact
    cases fault <;> exact hact
  · rw [exec_bind_of_ok hexec]
    rw [hexec] at hact
    obtain ⟨hsame, hcertain⟩ := hnext a s₁
    rcases hend : (next a).exec s₁ with ⟨⟨cause | _⟩ | b, s₂⟩ <;> rw [hend] at hsame hcertain
    · exact absurd rfl (hcertain cause)
    · exact hsame ▸ hact
    · exact hsame ▸ hact

theorem Leads.mapError (h : act.Leads written) (f : ε → δ) : (act.mapError f).Leads written := by
  intro s
  have hact := h s
  rw [Action.mapError, exec_of]
  rcases hexec : act.exec s with ⟨⟨cause | _⟩ | a, s₁⟩ <;> rw [hexec] at hact <;> exact hact

theorem Leads.thenDrop (h : act.Leads written) (id : AllocationId) :
    (act.thenDrop id).Leads written :=
  fun s => (h s).trans (.dropHandle ..)

theorem Leads.orDrop (h : act.Leads written) (id : AllocationId) :
    (act.orDrop id).Leads written := by
  intro s
  have hact := h s
  rw [Action.orDrop, exec_of]
  rcases hexec : act.exec s with ⟨fault | a, s₁⟩
  · rw [hexec] at hact
    cases fault <;> exact hact.trans (.dropHandle ..)
  · rw [hexec] at hact
    exact hact

theorem Leads.mono {written' : Set AllocationId} (h : act.Leads written)
    (hle : written ⊆ written') : act.Leads written' := by
  intro s
  have hact := h s
  rcases hexec : act.exec s with ⟨⟨cause | _⟩ | a, s₁⟩ <;> rw [hexec] at hact
  · exact hact
  · exact hact.mono hle
  · exact hact.mono hle

end Action

end DeviceMemory
