-- SUMMARY: Moving scalars between arrays and the host, and between arrays.
import DeviceMemory.Array.Basic
import DeviceMemory.Buffer.Transfer
import DeviceMemory.Scalar.Bytes

/-!
# Transfers of arrays

The host sees an array as the list of its scalars. A copy between arrays names
an element of the destination and a number of scalars, and is refused unless the
range lies inside both arrays.
-/

namespace DeviceMemory.BlockArray

variable {t : ScalarType} {e f : ElementShape}

/-! ## Transfers with the host -/

/-- Set every scalar to zero bits. -/
def zero (a : BlockArray t e) : Action ArrayError Unit := do
  (← a.memory).zero.mapError .device

/-- The scalars of the array. -/
def toHost (a : BlockArray t e) : Action ArrayError (List (Scalar t)) := do
  let b ← a.memory
  let count ← a.numel
  let bytes ← (b.read (count * t.bytes)).mapError .device
  return Scalar.decodeAll t bytes

/-- Replace every scalar of the array. -/
def ofHost (a : BlockArray t e) (values : List (Scalar t)) : Action ArrayError Unit := do
  let expected ← a.numel
  Action.ensure (values.length = expected) (.sizeMismatch expected values.length)
  ((← a.memory).write (Scalar.encodeAll values)).mapError .device

/-- An owned array with the given scalars, which must be whole elements. -/
def fromHost (e : ElementShape) (t : ScalarType) (allocator : AllocatorId)
    (values : List (Scalar t)) : Action ArrayError (BlockArray t e) := do
  Action.ensure (values.length % e.block = 0) (.partialElement values.length e.block)
  let a ← new e t allocator (values.length / e.block)
  match a.buffer with
  | some b => (a.ofHost values).orDrop b.allocation
  | none => a.ofHost values
  return a

/-! ## Copies between arrays -/

/-- Whether `count` scalars from element `index` on lie inside an array of `len`
    scalars, with every product and sum in a word. -/
def rangeFits (e : ElementShape) (index count len : Nat) : Bool :=
  ((Word.mul? index e.block).bind (Word.add? · count)).any (· ≤ len)

/-- Copy the first `count` scalars of another array into this one, from element
    `index` on. -/
def copyFrom (a : BlockArray t e) (index : Nat) (source : BlockArray t f) (count : Nat) :
    Action ArrayError Unit := do
  let start := Word.saturatingMul index e.block
  let len ← a.numel
  Action.ensure (rangeFits e index count len) (.outOfRange "copy destination" start count len)
  let sourceLen ← source.numel
  Action.ensure (count ≤ sourceLen) (.outOfRange "copy source" 0 count sourceLen)
  if count = 0 then return ()
  let bytes ← Action.checked (Word.mul? count t.bytes)
  let taken ← ((← source.memory).view 0 bytes).mapError .device
  let rest : Action ArrayError Unit := do
    let b ← a.memory
    let offset ← Action.checked (Word.mul? start t.bytes)
    let given ← (b.view offset bytes).mapError .device
    ((given.copyFrom taken).mapError .device).thenDrop given.allocation
  rest.thenDrop taken.allocation

end DeviceMemory.BlockArray
