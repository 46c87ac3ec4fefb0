-- SUMMARY: Granted blocks have the size and the zeros asked for, and a store says which requests it grants one after another.
import DeviceMemory.Store.Basic

/-!
# Grants

Every stack grants blocks of the size that was asked for, all zeros if zeros were
asked for, whatever its layers and whatever happened to it before: a parked block
serves only its own size and is cleared on the way out, and a request made again
after a drain is a request like any other. A store grants a list of requests if it
grants them one after another; only its allocators decide that.
-/

namespace DeviceMemory

/-! ## Fresh blocks -/

/-- A block of the size asked for, all zeros if zeros were asked for. -/
def Block.Fresh (size : Nat) (zeroed : Bool) (b : Block) : Prop :=
  b.size = size ∧ (zeroed = true → b.bytes = List.replicate size 0)

/-- A block may be handed out again once it is cleared, if zeros are asked for. -/
theorem Block.fresh_cleared (b : Block) (zeroed : Bool) :
    (if zeroed then b.cleared else b).Fresh b.size zeroed := by
  cases zeroed with
  | false => exact ⟨rfl, fun h => by cases h⟩
  | true => exact ⟨b.size_cleared, fun _ => rfl⟩

namespace Allocator

variable {σ : Type} {a : Allocator σ}

/-- Every granted block is fresh. -/
def Fresh (a : Allocator σ) : Prop :=
  ∀ ⦃size zeroed s block s'⦄, a.alloc size zeroed s = (.ok block, s') → block.Fresh size zeroed

theorem fresh_host : host.Fresh := by
  intro size zeroed next block next' halloc
  simp only [host, HostMemory.grant] at halloc
  split at halloc
  next granted hgrant =>
    split at hgrant
    next => cases hgrant
    next =>
      cases hgrant
      cases halloc
      exact ⟨List.length_replicate, fun _ => rfl⟩
  next => cases halloc

theorem fresh_budget (device : String) : (budget device).Fresh := by
  intro size zeroed s block s' halloc
  rcases hhost : host.alloc size zeroed s.next with ⟨answer, next⟩
  simp only [budget, hhost] at halloc
  split at halloc
  next => cases halloc
  next =>
    cases halloc
    exact fresh_host hhost

theorem fresh_limit (bytes : Nat) : (limit bytes).Fresh := by
  intro size zeroed s block s' halloc
  simp only [limit] at halloc
  split at halloc
  next => cases halloc
  next =>
    split at halloc
    next granted next hhost =>
      cases halloc
      exact fresh_host hhost
    next => cases halloc

theorem Fresh.metered (ha : a.Fresh) : a.metered.Fresh := by
  intro size zeroed s block s' halloc
  simp only [Allocator.metered] at halloc
  split at halloc
  next => cases halloc
  next granted state hinner =>
    split at halloc
    next => cases halloc
    next =>
      cases halloc
      exact ha hinner

/-- What is granted after a drain is as fresh as what is granted at once. -/
theorem Fresh.allocBelow (ha : a.Fresh) {size : Nat} {zeroed : Bool} {s s' : Recycling σ}
    {block : Block} (halloc : a.allocBelow size zeroed s = (.ok block, s')) :
    block.Fresh size zeroed := by
  simp only [Allocator.allocBelow] at halloc
  split at halloc
  next first state hfirst =>
    split at halloc
    next => cases halloc
    next drained =>
      split at halloc
      next => cases halloc
      next answer state hsecond =>
        cases halloc
        exact ha hsecond
  next answer state hfirst =>
    cases halloc
    exact ha hfirst

/-- A parked block is handed out to requests of its own size only. -/
theorem size_of_take? {size : Nat} {parked others : List Block} {block : Block}
    (htake : Parked.take? size parked = some (block, others)) : block.size = size := by
  have hmem : block ∈ Parked.ofSize size parked := by
    rw [Parked.ofSize_of_take? htake]
    exact List.mem_cons_self
  simpa [Parked.ofSize] using (List.mem_filter.mp hmem).2

theorem Fresh.recycling (ha : a.Fresh) (capacity : Nat) : (a.recycling capacity).Fresh := by
  intro size zeroed s block s' halloc
  simp only [Allocator.recycling] at halloc
  split at halloc
  next parked others htake =>
    obtain rfl := size_of_take? htake
    cases halloc
    exact parked.fresh_cleared zeroed
  next => exact ha.allocBelow halloc

theorem Fresh.layered (ha : a.Fresh) (layers : List Layer) : (a.layered layers).Fresh := by
  induction layers with
  | nil => exact ha
  | cons layer layers ih =>
    cases layer with
    | metered => exact ih.metered
    | recycling capacity => exact ih.recycling capacity

end Allocator

theorem Base.fresh (base : Base) : base.allocator.Fresh := by
  cases base with
  | host => exact Allocator.fresh_host
  | budget requests device => exact Allocator.fresh_budget device
  | limit bytes => exact Allocator.fresh_limit bytes

theorem Stack.fresh_of_alloc {s s' : Stack} {size : Nat} {zeroed : Bool} {block : Block}
    (halloc : s.alloc size zeroed = (.ok block, s')) : block.Fresh size zeroed := by
  rcases hstate : s.allocator.alloc size zeroed s.state with ⟨answer, state⟩
  simp only [Stack.alloc, hstate, Prod.mk.injEq] at halloc
  obtain ⟨rfl, -⟩ := halloc
  exact s.base.fresh.layered s.layers hstate

/-! ## Requests to a store -/

namespace Store

variable {s s' : Store} {id : AllocatorId} {size : Nat} {zeroed : Bool} {answer : Grant}

theorem fresh_of_alloc {block : Block} (halloc : s.alloc id size zeroed = (.ok block, s')) :
    block.Fresh size zeroed := by
  simp only [alloc] at halloc
  split at halloc
  next => cases halloc
  next stack hid =>
    rcases hstack : stack.alloc size zeroed with ⟨answer, stack'⟩
    simp only [hstack, Prod.mk.injEq] at halloc
    obtain ⟨rfl, -⟩ := halloc
    exact Stack.fresh_of_alloc hstack

theorem size_of_alloc {block : Block} (halloc : s.alloc id size zeroed = (.ok block, s')) :
    block.size = size :=
  (fresh_of_alloc halloc).1

/-- A request changes allocators only, -/
theorem eq_of_alloc (halloc : s.alloc id size zeroed = (answer, s')) :
    s' = { s with allocators := s'.allocators } := by
  simp only [alloc] at halloc
  split at halloc
  next => cases halloc; rfl
  next stack hid => cases halloc; rfl

/-- and allocators alone decide its answer. -/
theorem alloc_of_allocators_eq {left : Store} (hsame : left.allocators = s.allocators)
    (halloc : s.alloc id size zeroed = (answer, s')) :
    left.alloc id size zeroed = (answer, { left with allocators := s'.allocators }) := by
  simp only [alloc] at halloc ⊢
  rw [hsame]
  split at halloc
  next hnone =>
    cases halloc
    rw [← hsame]
  next stack hid =>
    cases halloc
    rfl

/-! Memory is got and given back without a look at the pools. -/

@[simp] theorem pools_alloc (id : AllocatorId) (size : Nat) (zeroed : Bool) (s : Store) :
    (s.alloc id size zeroed).2.pools = s.pools := by
  unfold alloc
  split <;> rfl

@[simp] theorem pools_free (id : AllocatorId) (block : Block) (s : Store) :
    (s.free id block).pools = s.pools := by
  unfold Store.free giveBack
  split <;> rfl

@[simp] theorem pools_allocate (id : AllocationId) (s : Store) :
    (s.allocate id).2.pools = s.pools := by
  cases ha : s.allocations[id]? with
  | none => simp only [allocate, ha]
  | some a =>
    cases hb : a.block with
    | some block => simp only [allocate, ha, hb]
    | none =>
      have halloc := pools_alloc a.allocator a.size a.zeroed s
      simp only [allocate, ha, hb]
      split
      next hgrant => rwa [hgrant] at halloc
      next hgrant => rwa [hgrant] at halloc

@[simp] theorem pools_dropHandle (id : AllocationId) (s : Store) :
    (s.dropHandle id).pools = s.pools := by
  unfold Store.dropHandle
  split
  next => rfl
  next =>
    split
    next => rfl
    next => split <;> simp [setAllocation]

/-- Whether the store grants these requests one after another. -/
def grants : List (AllocatorId × Nat) → Store → Bool
  | [], _ => true
  | (id, size) :: requests, s =>
    match s.alloc id size false with
    | (.ok _, s) => s.grants requests
    | (.error _, _) => false

theorem grants_cons {requests : List (AllocatorId × Nat)} :
    s.grants ((id, size) :: requests) = true ↔
      ∃ block s', s.alloc id size false = (.ok block, s') ∧ s'.grants requests = true := by
  rw [grants]
  split
  next block s' halloc =>
    rw [halloc]
    constructor
    · intro h
      exact ⟨block, s', rfl, h⟩
    · rintro ⟨_, _, heq, h⟩
      cases heq
      exact h
  next fault s' halloc =>
    rw [halloc]
    refine iff_of_false Bool.false_ne_true ?_
    rintro ⟨_, _, heq, -⟩
    cases heq

theorem grants_congr (requests : List (AllocatorId × Nat))
    (hsame : s.allocators = s'.allocators) : s.grants requests = s'.grants requests := by
  induction requests generalizing s s' with
  | nil => rfl
  | cons request requests ih =>
    obtain ⟨id, size⟩ := request
    rcases halloc : s'.alloc id size false with ⟨answer, s''⟩
    rw [grants, grants, halloc, alloc_of_allocators_eq hsame halloc]
    cases answer with
    | error fault => rfl
    | ok block =>
      have hnext : ({ s with allocators := s''.allocators } : Store).allocators =
          s''.allocators := rfl
      exact ih hnext

end Store

end DeviceMemory
