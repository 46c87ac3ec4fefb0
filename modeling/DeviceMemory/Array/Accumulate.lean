-- SUMMARY: Scatter, gather and reductions on arrays.
import DeviceMemory.Array.Basic
import DeviceMemory.Launch.Kernel

/-!
# Launches on arrays

An element of an array is the block of a launch. Index values are not compared
with the lengths of the arrays beforehand; the launch itself stops at one that
addresses no element.
-/

namespace DeviceMemory.BlockArray

variable {t : ScalarType} {e : ElementShape}

/-- Add element `i` of the source into the element that index `i` names, for the
    first `n` indices. -/
def scatter (a : BlockArray t e) (indices : BlockArray .int32 .scalar) (source : BlockArray t e)
    (n : Nat) : Action ArrayError Unit := do
  let positions ← indices.memory
  let values ← source.memory
  let destination ← a.memory
  (Kernel.launch .scatter t destination positions values n e.block a.grid).mapError .device

/-- Add the element of the source that index `i` names into element `start + i`,
    for the first `n` indices. -/
def gather (a : BlockArray t e) (start : Nat) (indices : BlockArray .int32 .scalar)
    (source : BlockArray t e) (n : Nat) : Action ArrayError Unit := do
  if n = 0 then return ()
  let positions ← indices.memory
  let values ← source.memory
  let b ← a.memory
  let elementBytes ← Action.checked (Word.mul? e.block t.bytes)
  match Word.mul? start elementBytes with
  | none => Action.fail (.outOfRange "gather destination" start n a.len)
  | some offset =>
    let tail ← (b.view offset (b.size - offset)).mapError .device
    ((Kernel.launch .gather t tail positions values n e.block a.grid).mapError .device).thenDrop
      tail.allocation

/-- The reduction of every scalar. -/
def reduce (r : Reduction) (a : BlockArray t e) : Action ArrayError (Scalar t) := do
  (Kernel.launchReduction r t (← a.memory) a.grid).mapError .device

end DeviceMemory.BlockArray
