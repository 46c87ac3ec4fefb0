-- SUMMARY: Pools: allocations shared by key, acquired, looked up and forgotten.
import DeviceMemory.Buffer.Basic

/-!
# Pools

Users that agree on a key share one allocation through a pool. Acquiring a key
says whether the memory is fresh, so that its contents mean nothing yet, or was
handed out before and still holds its contents. A slot is live while the
allocation has a handle; a pool that retains holds one itself until the key is
released or the pool cleared.
-/

namespace DeviceMemory

/-- How a key was acquired. -/
inductive Acquisition where
  | fresh
  | reused
  deriving DecidableEq

namespace Acquisition

def name : Acquisition → String
  | .fresh => "Fresh"
  | .reused => "Reused"

def isFresh : Acquisition → Bool
  | .fresh => true
  | .reused => false

end Acquisition

/-- Whether the allocation under a slot still has a handle. -/
def Slot.isLive (s : Store) : Slot → Bool
  | .held allocation => 0 < s.handles allocation
  | .retained _ => true

namespace Pool

variable {ε : Type}

def allocatorOf (id : PoolId) (s : Store) : AllocatorId :=
  (s.pools[id]?.map Pool.allocator).getD 0

def retainsOf (id : PoolId) (s : Store) : Bool :=
  (s.pools[id]?.map Pool.retains).getD false

/-- The slots of a list that are not under a key. -/
def without (key : PoolKey) (slots : List (PoolKey × Slot)) : List (PoolKey × Slot) :=
  slots.filter (·.1 ≠ key)

/-! ## Looking up -/

/-- Whether the key names a live slot. -/
def contains (id : PoolId) (key : PoolKey) (s : Store) : Bool :=
  ((s.slots id).lookup key).any (·.isLive s)

/-- Number of live slots. -/
def liveSlots (id : PoolId) (s : Store) : Nat :=
  ((s.slots id).filter (·.2.isLive s)).length

/-- The allocation under a key. A slot found dead is forgotten. -/
def find (id : PoolId) (key : PoolKey) : Action ε (Option AllocationId) :=
  Action.total fun s =>
    match (s.slots id).lookup key with
    | none => (none, s)
    | some slot =>
      if slot.isLive s then (some slot.allocation, s)
      else (none, s.setSlots id (without key (s.slots id)))

/-! ## Acquiring -/

/-- Put a buffer's allocation under a key. Dead slots go. -/
def remember (id : PoolId) (key : PoolKey) (b : Buffer) : Action ε Unit :=
  Action.update fun s =>
    let retains := retainsOf id s
    let s := if retains then s.addHandle b.allocation else s
    let slot := if retains then Slot.retained b.allocation else Slot.held b.allocation
    s.setSlots id (without key ((s.slots id).filter (·.2.isLive s)) ++ [(key, slot)])

/-- The buffer under a key, allocated unless the key is live. A live key keeps
    its size. -/
def acquire (id : PoolId) (key : PoolKey) (t : ScalarType) (shape : List Nat) :
    Action DeviceError (Buffer × Acquisition) := do
  let size ← Action.checked (byteSize? t shape)
  match ← find id key with
  | some allocation =>
    let expected ← Action.read fun s => (s.allocations[allocation]?.map Allocation.size).getD 0
    Action.ensure (expected = size) (.slotMismatch key.id expected size)
    Action.update (Store.addHandle allocation)
    return (Buffer.whole allocation expected t shape, .reused)
  | none =>
    let b ← Buffer.allocate (← Action.read (allocatorOf id)) t shape false
    remember id key b
    return (b, .fresh)

/-! ## Forgetting -/

/-- Forget a key. Says whether it was live. -/
def release (id : PoolId) (key : PoolKey) (s : Store) : Bool × Store :=
  match (s.slots id).lookup key with
  | none => (false, s)
  | some slot =>
    (slot.isLive s, (s.setSlots id (without key (s.slots id))).dropSlot slot)

end Pool

end DeviceMemory
