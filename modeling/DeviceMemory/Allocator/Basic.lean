-- SUMMARY: Blocks of memory, what an allocator reports about itself, and the interface of an allocator.
import DeviceMemory.Device.Error

/-!
# Allocators

A `Block` is a piece of memory as an allocator hands it out. An `Allocator σ`
grants blocks and takes them back, keeping a state of type `σ`; each operation
is a function of that state. Taking memory back has no error, but it traps where
an allocator is given more than it has handed out. Layers over an allocator are
allocators again, so a statement about a layer is a statement about every
allocator under it.
-/

namespace DeviceMemory

/-! ## Blocks -/

/-- A piece of memory. The address tells apart the blocks that one base
    allocator has granted. -/
structure Block where
  address : Nat
  bytes : List UInt8
  deriving DecidableEq

namespace Block

def size (b : Block) : Nat := b.bytes.length

/-- The block with every byte zero. -/
def cleared (b : Block) : Block := { b with bytes := List.replicate b.size 0 }

/-- The bytes of a range, if it lies inside the block. -/
def read? (b : Block) (offset size : Nat) : Option (List UInt8) :=
  if offset + size ≤ b.size then some ((b.bytes.drop offset).take size) else none

/-- The block with the bytes from `offset` on replaced, if they lie inside it. -/
def write? (b : Block) (offset : Nat) (bytes : List UInt8) : Option Block :=
  if offset + bytes.length ≤ b.size then
    some { b with
      bytes := b.bytes.take offset ++ bytes ++ b.bytes.drop (offset + bytes.length) }
  else none

@[simp] theorem size_cleared (b : Block) : b.cleared.size = b.size := by
  simp [cleared, size]

theorem size_of_write? {b b' : Block} {offset : Nat} {bytes : List UInt8}
    (h : b.write? offset bytes = some b') : b'.size = b.size := by
  simp only [write?] at h
  split at h
  next hfits =>
    cases h
    simp only [size, List.length_append, List.length_take, List.length_drop] at hfits ⊢
    omega
  next => cases h

/-- A range that was just written reads back as written. -/
theorem read?_of_write? {b b' : Block} {offset : Nat} {bytes : List UInt8}
    (h : b.write? offset bytes = some b') : b'.read? offset bytes.length = some bytes := by
  have hsize := size_of_write? h
  simp only [write?] at h
  split at h
  next hfits =>
    cases h
    have htake : (b.bytes.take offset).length = offset := by
      rw [List.length_take]
      exact Nat.min_eq_left (by simp only [size] at hfits; omega)
    rw [read?, if_pos (by rw [hsize]; exact hfits), List.append_assoc, List.drop_left' htake,
      List.take_left' rfl]
  next => cases h

end Block

/-! ## Usage -/

/-- What an allocator reports about the memory it has handed out. -/
structure Usage where
  /-- Blocks not yet returned to the device, parked ones included. -/
  liveBuffers : Nat
  liveBytes : Nat
  /-- The largest `liveBytes` so far. -/
  peakBytes : Nat
  totalAllocations : Nat
  /-- Blocks parked for reuse. -/
  cachedBuffers : Nat
  cachedBytes : Nat
  deriving DecidableEq

namespace Usage

def none : Usage := ⟨0, 0, 0, 0, 0, 0⟩

/-- Live blocks that are not parked. -/
def outstandingBuffers (u : Usage) : Nat := u.liveBuffers - u.cachedBuffers

/-- Bytes of the live blocks that are not parked. -/
def outstandingBytes (u : Usage) : Nat := u.liveBytes - u.cachedBytes

end Usage

/-! ## The interface -/

/-- The answer to a request for a block. -/
abbrev Grant := Except (Fault DeviceError) Block

/-- The state after memory went back: all of it, or what went back before a trap. -/
inductive Return (σ : Type) where
  | done (state : σ)
  | trapped (state : σ)

namespace Return

variable {σ τ : Type}

/-- The same end, seen in the state of an enclosing allocator. -/
def map (f : σ → τ) : Return σ → Return τ
  | .done s => .done (f s)
  | .trapped s => .trapped (f s)

/-- Go on from the state unless there was a trap. -/
def bind : Return σ → (σ → Return σ) → Return σ
  | .done s, next => next s
  | .trapped s, _ => .trapped s

end Return

/-- A source of memory with states of type `σ`. -/
structure Allocator (σ : Type) where
  name : String
  /-- Answer a request for a block of `size` bytes, zeroed or of any contents. -/
  alloc : (size : Nat) → (zeroed : Bool) → σ → Grant × σ
  /-- Take a block back. -/
  free : Block → σ → Return σ
  /-- Return every parked block to the device. -/
  trim : σ → Return σ
  usage : σ → Usage

namespace Allocator

variable {σ : Type}

/-- Take back a list of blocks, first one first, up to a trap. -/
def freeAll (a : Allocator σ) : List Block → σ → Return σ
  | [], s => .done s
  | b :: blocks, s => (a.free b s).bind (a.freeAll blocks)

end Allocator

end DeviceMemory
