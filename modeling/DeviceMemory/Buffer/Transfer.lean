-- SUMMARY: Moving bytes between buffers and host lists, and between buffers.
import DeviceMemory.Buffer.Basic

/-!
# Transfers

Every transfer first makes sure of the memory of its buffers and then compares
lengths, so that a mismatch changes no byte. A copy between two ranges of one
allocation goes through a temporary copy of the source, which makes overlap
harmless.
-/

namespace DeviceMemory.Buffer

/-! ## Bytes of allocated buffers -/

/-- The bytes of the range. -/
def load (b : Buffer) : Action DeviceError (List UInt8) := do
  match ← Action.read (Store.block? b.allocation) with
  | none => Action.fail .notAllocated
  | some block => Action.checked (block.read? b.offset b.size)

/-- Replace the memory of the buffer's allocation. -/
def setBlock (b : Buffer) (block : Block) : Action DeviceError Unit :=
  Action.update fun s =>
    { s with
      allocations := s.allocations.modify b.allocation fun a => { a with block := some block } }

/-- Replace the bytes of the range, from its start on. -/
def store (b : Buffer) (bytes : List UInt8) : Action DeviceError Unit := do
  match ← Action.read (Store.block? b.allocation) with
  | none => Action.fail .notAllocated
  | some block => b.setBlock (← Action.checked (block.write? b.offset bytes))

/-! ## Transfers with the host -/

/-- Set every byte of the range to zero. -/
def zero (b : Buffer) : Action DeviceError Unit := do
  b.acquire
  match ← Action.read (Store.block? b.allocation) with
  | none => Action.fail .notAllocated
  | some block =>
    if b.offset = 0 ∧ b.size = block.size then b.setBlock block.cleared
    else b.store (List.replicate b.size 0)

/-- Copy bytes from the host into the range, which they must fill exactly. -/
def write (b : Buffer) (bytes : List UInt8) : Action DeviceError Unit := do
  b.acquire
  Action.ensure (b.size = bytes.length) (.sizeMismatch b.size bytes.length)
  b.store bytes

/-- Copy the range to the host, which expects `size` bytes. -/
def read (b : Buffer) (size : Nat) : Action DeviceError (List UInt8) := do
  b.acquire
  Action.ensure (b.size = size) (.sizeMismatch b.size size)
  b.load

/-! ## Copies between buffers -/

/-- A new buffer of the same allocator with a copy of the whole scalars of the
    range, which must be all of it. -/
def detach (b : Buffer) : Action DeviceError Buffer := do
  let allocator ← Action.read b.allocator
  let copy ← allocate allocator b.dtype [b.numel] false
  let fill : Action DeviceError Unit := do
    b.acquire
    Action.ensure (copy.size = b.size) (.sizeMismatch copy.size b.size)
    copy.store (← b.load)
  fill.orDrop copy.allocation
  return copy

/-- Copy an equally long range into this one. -/
def copyFrom (b source : Buffer) : Action DeviceError Unit := do
  b.acquire
  source.acquire
  Action.ensure (b.size = source.size) (.sizeMismatch b.size source.size)
  if b.allocation ≠ source.allocation then b.store (← source.load)
  else if b.offset ≠ source.offset then
    let staged ← source.detach
    let move : Action DeviceError Unit := do b.store (← staged.load)
    move.thenDrop staged.allocation

end DeviceMemory.Buffer
