-- SUMMARY: Arrays of equally shaped elements in device memory: construction, acquisition and dropping.
import DeviceMemory.Array.Error
import DeviceMemory.Context.Basic

/-!
# Block arrays

A `BlockArray t e` is a list of elements of shape `e` with scalars of type `t`,
resident in one buffer. An owned array has memory from the start; a shared one
names a pool slot and gets memory when it is acquired.
-/

namespace DeviceMemory

/-- The shape of an element, with at least one scalar. -/
structure ElementShape where
  s1 : Nat
  s2 : Nat
  s3 : Nat
  nonempty : 0 < s1 * s2 * s3
  deriving DecidableEq

namespace ElementShape

/-- Scalars of an element. -/
def block (e : ElementShape) : Nat := e.s1 * e.s2 * e.s3

/-- Elements that are single scalars. -/
def scalar : ElementShape := ⟨1, 1, 1, by decide⟩

/-- The element shape with the given sides, if it holds a scalar. -/
def ofSides? (s1 s2 s3 : Nat) : Option ElementShape :=
  if h : 0 < s1 * s2 * s3 then some ⟨s1, s2, s3, h⟩ else none

end ElementShape

/-- Elements of one shape in device memory. -/
structure BlockArray (t : ScalarType) (e : ElementShape) where
  len : Nat
  buffer : Option Buffer
  ownership : Ownership
  pool : Option PoolId
  grid : Grid

namespace BlockArray

variable {t : ScalarType} {e : ElementShape} {ε : Type}

/-! ## Sizes -/

def bufferShape (e : ElementShape) (len : Nat) : List Nat := [len, e.s1, e.s2, e.s3]

def shape (a : BlockArray t e) : List Nat := bufferShape e a.len

/-- Scalars of the array, if their number fits in a word. -/
def numel? (a : BlockArray t e) : Option Nat := Word.mul? a.len e.block

/-- Bytes of the array, if their number fits in a word. -/
def byteSize? (a : BlockArray t e) : Option Nat := a.numel?.bind (Word.mul? · t.bytes)

def numel (a : BlockArray t e) : Action ε Nat := Action.checked a.numel?

/-! ## Construction -/

/-- An owned array with memory of any contents. -/
def new (e : ElementShape) (t : ScalarType) (allocator : AllocatorId) (len : Nat) :
    Action ArrayError (BlockArray t e) := do
  let b ← (Buffer.allocate allocator t (bufferShape e len) false).mapError .device
  return ⟨len, some b, .owned, none, Grid.default⟩

/-- An array that will share a pool slot. -/
def shared (e : ElementShape) (t : ScalarType) (pool : PoolId) (key : PoolKey) (len : Nat) :
    Action ε (BlockArray t e) := do
  Action.update (Store.addPoolHandle pool)
  return ⟨len, none, .shared key, some pool, Grid.default⟩

/-- An owned array for number zero, else an array that shares the slot of that
    number. -/
def withId (e : ElementShape) (t : ScalarType) (pool : PoolId) (id len : Nat) :
    Action ArrayError (BlockArray t e) := do
  match PoolKey.ofNat? id with
  | some key => shared e t pool key len
  | none => new e t (← Action.read (Pool.allocatorOf pool)) len

/-- The array, launched on another grid. -/
def withGrid (a : BlockArray t e) (g : Grid) : BlockArray t e := { a with grid := g }

/-- An owned array on the device of a context. -/
def inContext (e : ElementShape) (t : ScalarType) (c : Context) (len : Nat) :
    Action ArrayError (BlockArray t e) := do
  return (← new e t c.allocator len).withGrid c.grid

/-- An array that will share a slot of a context's pool. -/
def sharedIn (e : ElementShape) (t : ScalarType) (c : Context) (key : PoolKey) (len : Nat) :
    Action ε (BlockArray t e) := do
  return (← shared e t c.pool key len).withGrid c.grid

/-- Drop the handles that the array is. -/
def drop (a : BlockArray t e) (s : Store) : Store :=
  let s := match a.buffer with
    | some b => b.drop s
    | none => s
  match a.pool with
  | some pool => s.dropPoolHandle pool
  | none => s

/-! ## Memory -/

def isAcquired (a : BlockArray t e) : Bool := a.buffer.isSome

/-- The buffer of an array that has memory. -/
def memory (a : BlockArray t e) : Action ArrayError Buffer :=
  match a.buffer with
  | some b => pure b
  | none => Action.fail (.notAcquired a.ownership)

/-- Make sure that the array has memory. Says whether its contents are still to
    be written: always for an owned array, and for a shared one if this made the
    slot fresh. -/
def acquire (a : BlockArray t e) : Action ArrayError (Bool × BlockArray t e) :=
  match a.buffer, a.ownership, a.pool with
  | some _, .shared _, _ => return (false, a)
  | some b, .owned, _ => do
    b.acquire.mapError .device
    return (true, a)
  | none, .shared key, some pool => do
    let (b, acquisition) ← (Pool.acquire pool key t a.shape).mapError .device
    return (acquisition.isFresh, { a with buffer := some b })
  | none, ownership, _ => Action.fail (.notAcquired ownership)

end BlockArray

end DeviceMemory
