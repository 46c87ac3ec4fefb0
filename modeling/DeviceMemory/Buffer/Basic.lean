-- SUMMARY: Buffers: typed handles to byte ranges of allocations.
import DeviceMemory.Store.Action

/-!
# Buffers

A buffer is a handle to a byte range of an allocation, read as scalars of one
type. Clones and views are handles of their own to the same allocation.
-/

namespace DeviceMemory

/-- A handle to a byte range of an allocation. -/
structure Buffer where
  allocation : AllocationId
  offset : Nat
  size : Nat
  dtype : ScalarType
  shape : List Nat
  deriving DecidableEq

/-- Bytes of a shape of scalars, if every product on the way fits in a word. -/
def byteSize? (t : ScalarType) (shape : List Nat) : Option Nat :=
  (Word.product? shape).bind (Word.mul? t.bytes)

namespace Buffer

variable {ε : Type}

/-- Whole scalars in the range. -/
def numel (b : Buffer) : Nat := b.size / b.dtype.bytes

/-- A buffer over a whole allocation. -/
def whole (allocation : AllocationId) (size : Nat) (t : ScalarType) (shape : List Nat) : Buffer :=
  ⟨allocation, 0, size, t, shape⟩

/-- Whether two buffers are ranges of the same allocation. -/
def shares (a b : Buffer) : Bool := a.allocation = b.allocation

/-! ## Making and dropping handles -/

/-- A buffer that gets its memory on first use. -/
def create (allocator : AllocatorId) (t : ScalarType) (shape : List Nat) (zeroed : Bool) :
    Action ε Buffer := do
  let size ← Action.checked (byteSize? t shape)
  let allocation ← Action.total (Store.addAllocation allocator size zeroed)
  return whole allocation size t shape

/-- Make sure that the buffer has memory. -/
def acquire (b : Buffer) : Action DeviceError Unit :=
  Action.of (Store.allocate b.allocation)

/-- A buffer that gets its memory now. -/
def allocate (allocator : AllocatorId) (t : ScalarType) (shape : List Nat) (zeroed : Bool) :
    Action DeviceError Buffer := do
  let b ← create allocator t shape zeroed
  b.acquire.orDrop b.allocation
  return b

/-- Another handle to the same range. -/
def clone (b : Buffer) : Action ε Buffer := do
  Action.update (Store.addHandle b.allocation)
  return b

/-- A handle to a range of the buffer. -/
def view (b : Buffer) (offset size : Nat) : Action DeviceError Buffer := do
  Action.ensure (offset + size ≤ b.size) (.invalidView offset size b.size)
  Action.update (Store.addHandle b.allocation)
  return { b with offset := b.offset + offset, size := size, shape := [size / b.dtype.bytes] }

def drop (b : Buffer) (s : Store) : Store := s.dropHandle b.allocation

/-! ## What a buffer says of itself -/

def isAllocated (b : Buffer) (s : Store) : Bool := (s.block? b.allocation).isSome

/-- Handles to the allocation, retained slots included. -/
def handles (b : Buffer) (s : Store) : Nat := s.handles b.allocation

def allocator (b : Buffer) (s : Store) : AllocatorId :=
  (s.allocations[b.allocation]?.map Allocation.allocator).getD 0

/-- The device of the memory, or before there is any the allocator's name. -/
def device (b : Buffer) (s : Store) : String :=
  if b.isAllocated s then Device.cpu.canonical else s.allocatorName (b.allocator s)

end Buffer

end DeviceMemory
