-- SUMMARY: Everything that buffers, pools and arrays share: allocators, allocations with their handles, pools and the journal.
import DeviceMemory.Allocator.Stack

/-!
# The store

An `Allocation` is the memory behind all handles of one buffer. It gets a block
on first use and gives it back with the last handle. A `Pool` names allocations
by key: a retained slot is itself a handle, a held one only looks at the
allocation while others hold it. Allocators, allocations and pools are numbered
in the order of creation and no number is used twice.

Handles are dropped on every way out of an operation, so a trap of the allocator
that gets the memory back is not the result of any: the store keeps it, for
whoever runs the operation to see.
-/

namespace DeviceMemory

abbrev AllocatorId := Nat
abbrev AllocationId := Nat
abbrev PoolId := Nat

/-- The memory behind all handles of one buffer. -/
structure Allocation where
  allocator : AllocatorId
  size : Nat
  zeroed : Bool
  handles : Nat
  block : Option Block

/-- The name of a pool slot: a number other than zero. -/
structure PoolKey where
  id : Nat
  ne_zero : id ≠ 0
  deriving DecidableEq

/-- The key with a given number. Zero names no slot. -/
def PoolKey.ofNat? (id : Nat) : Option PoolKey :=
  if h : id ≠ 0 then some ⟨id, h⟩ else none

/-- What a pool remembers under a key. -/
inductive Slot where
  | held (allocation : AllocationId)
  | retained (allocation : AllocationId)
  deriving DecidableEq

def Slot.allocation : Slot → AllocationId
  | .held allocation | .retained allocation => allocation

/-- Allocations shared by key. -/
structure Pool where
  allocator : AllocatorId
  retains : Bool
  slots : List (PoolKey × Slot)
  handles : Nat

/-- Something worth telling whoever runs the program. -/
inductive Event where
  | contextInitialized (devices rank : Nat) (device : String)
  | outstandingAtTeardown (device : String) (buffers bytes : Nat)
  | arraySummary (text : String)
  deriving DecidableEq

structure Store where
  allocators : List Stack
  allocations : List Allocation
  pools : List Pool
  journal : List Event
  /-- Whether an allocator trapped when memory went back to it. -/
  trapped : Bool

namespace Store

def empty : Store := ⟨[], [], [], [], false⟩

/-! ## Allocators -/

def addStack (stack : Stack) (s : Store) : AllocatorId × Store :=
  (s.allocators.length, { s with allocators := s.allocators ++ [stack] })

/-- Request a block. An unknown number traps. -/
def alloc (id : AllocatorId) (size : Nat) (zeroed : Bool) (s : Store) : Grant × Store :=
  match s.allocators[id]? with
  | none => (.error .trap, s)
  | some stack =>
    let (answer, stack) := stack.alloc size zeroed
    (answer, { s with allocators := s.allocators.set id stack })

/-- Let an allocator take memory back, and keep a trap. -/
def giveBack (id : AllocatorId) (change : Stack → Return Stack) (s : Store) : Store :=
  match s.allocators[id]?.map change with
  | none => s
  | some (.done stack) => { s with allocators := s.allocators.set id stack }
  | some (.trapped stack) => { s with allocators := s.allocators.set id stack, trapped := true }

def free (id : AllocatorId) (block : Block) (s : Store) : Store :=
  s.giveBack id (·.free block)

def trim (id : AllocatorId) (s : Store) : Store :=
  s.giveBack id Stack.trim

def usage (id : AllocatorId) (s : Store) : Usage :=
  (s.allocators[id]?.map Stack.usage).getD .none

def allocatorName (id : AllocatorId) (s : Store) : String :=
  (s.allocators[id]?.map Stack.name).getD ""

@[simp] theorem allocations_alloc (id : AllocatorId) (size : Nat) (zeroed : Bool) (s : Store) :
    (s.alloc id size zeroed).2.allocations = s.allocations := by
  unfold alloc
  split <;> rfl

/-! ## Allocations and their handles -/

/-- A new allocation without memory, held by one handle. -/
def addAllocation (allocator : AllocatorId) (size : Nat) (zeroed : Bool) (s : Store) :
    AllocationId × Store :=
  (s.allocations.length,
    { s with allocations := s.allocations ++ [⟨allocator, size, zeroed, 1, none⟩] })

def setAllocation (id : AllocationId) (allocation : Allocation) (s : Store) : Store :=
  { s with allocations := s.allocations.set id allocation }

def handles (id : AllocationId) (s : Store) : Nat :=
  (s.allocations[id]?.map Allocation.handles).getD 0

/-- The memory of an allocation, once it has any. -/
def block? (id : AllocationId) (s : Store) : Option Block :=
  s.allocations[id]?.bind Allocation.block

/-- Give an allocation its memory if it has none yet. -/
def allocate (id : AllocationId) (s : Store) : Except (Fault DeviceError) Unit × Store :=
  match s.allocations[id]? with
  | none => (.error .trap, s)
  | some allocation =>
    match allocation.block with
    | some _ => (.ok (), s)
    | none =>
      match s.alloc allocation.allocator allocation.size allocation.zeroed with
      | (.error fault, s) => (.error fault, s)
      | (.ok block, s) => (.ok (), s.setAllocation id { allocation with block := some block })

def addHandle (id : AllocationId) (s : Store) : Store :=
  { s with allocations := s.allocations.modify id fun a => { a with handles := a.handles + 1 } }

/-- Drop a handle. The last one gives the memory back. -/
def dropHandle (id : AllocationId) (s : Store) : Store :=
  match s.allocations[id]? with
  | none => s
  | some allocation =>
    if 1 < allocation.handles then
      s.setAllocation id { allocation with handles := allocation.handles - 1 }
    else
      let left := s.setAllocation id { allocation with handles := 0, block := none }
      match allocation.block with
      | none => left
      | some block => left.free allocation.allocator block

/-! ## Pools -/

/-- A new pool without slots, held by one handle. -/
def addPool (allocator : AllocatorId) (retains : Bool) (s : Store) : PoolId × Store :=
  (s.pools.length, { s with pools := s.pools ++ [⟨allocator, retains, [], 1⟩] })

def setSlots (id : PoolId) (slots : List (PoolKey × Slot)) (s : Store) : Store :=
  { s with pools := s.pools.modify id fun p => { p with slots := slots } }

def slots (id : PoolId) (s : Store) : List (PoolKey × Slot) :=
  (s.pools[id]?.map Pool.slots).getD []

/-- Drop the handle that a forgotten slot was. -/
def dropSlot (slot : Slot) (s : Store) : Store :=
  match slot with
  | .held _ => s
  | .retained allocation => s.dropHandle allocation

/-- Forget every slot of a pool. -/
def clearPool (id : PoolId) (s : Store) : Store :=
  (s.slots id).foldl (fun s (_, slot) => s.dropSlot slot) (s.setSlots id [])

def addPoolHandle (id : PoolId) (s : Store) : Store :=
  { s with pools := s.pools.modify id fun p => { p with handles := p.handles + 1 } }

/-- Drop a handle to a pool. The last one forgets every slot. -/
def dropPoolHandle (id : PoolId) (s : Store) : Store :=
  match s.pools[id]? with
  | none => s
  | some pool =>
    let left := { s with pools := s.pools.set id { pool with handles := pool.handles - 1 } }
    if 1 < pool.handles then left else left.clearPool id

/-! ## The journal -/

def record (event : Event) (s : Store) : Store :=
  { s with journal := s.journal ++ [event] }

end Store

end DeviceMemory
