-- SUMMARY: Launches on buffers: what is checked beforehand, what is read from a snapshot, and what is written.
import DeviceMemory.Buffer.Transfer
import DeviceMemory.Launch.Accumulate
import DeviceMemory.Launch.Reduce
import DeviceMemory.Scalar.Bytes

/-!
# Kernels

A kernel checks types and lengths of its operands before it touches memory. An
operand that shares the allocation of the destination is read from a snapshot
taken before the launch, so every work item sees the values from before it.
-/

namespace DeviceMemory

/-- Which side of an accumulating launch the indices address. -/
inductive Direction where
  | scatter
  | gather
  deriving DecidableEq

/-- The name that refusals of the kernel show. -/
def Direction.kernel : Direction → String
  | .scatter => "scatter_add"
  | .gather => "gather_add"

/-- The name that refusals of the kernel show. -/
def Reduction.kernel : Reduction → String
  | .sum => "reduce_sum"
  | .maximum => "reduce_max"

namespace Kernel

/-! ## Checks -/

/-- Refuse an operand of another type. -/
def checkType (kernel role : String) (b : Buffer) (t : ScalarType) : Action DeviceError Unit :=
  Action.ensure (b.dtype = t)
    (.launchFailed kernel (role ++ " is " ++ b.dtype.name ++ ", expected " ++ t.name))

/-- Refuse an operand with too few scalars. -/
def checkLength (kernel role : String) (b : Buffer) (required : Nat) : Action DeviceError Unit :=
  Action.ensure (required ≤ b.numel)
    (.launchFailed kernel
      (role ++ " holds " ++ b.numel.repr ++ " scalars, launch needs " ++ required.repr))

/-- Check the operands of an accumulating launch of `n` items of `block` scalars.
    The side that the indices do not address holds a block for every item. -/
def checkOperands (d : Direction) (t : ScalarType) (destination indices source : Buffer)
    (n block : Nat) : Action DeviceError Unit := do
  Action.ensure (block ≠ 0)
    (.launchFailed d.kernel "element block must hold at least one scalar")
  checkType d.kernel "destination" destination t
  checkType d.kernel "source" source t
  checkType d.kernel "indices" indices .int32
  checkLength d.kernel "indices" indices n
  let required ← Action.checked (Word.mul? n block)
  match d with
  | .scatter => checkLength d.kernel "source" source required
  | .gather => checkLength d.kernel "destination" destination required

/-! ## Operands -/

/-- The scalars of a buffer, whose range must hold whole, aligned scalars. -/
def scalars (t : ScalarType) (b : Buffer) : Action DeviceError (List (Scalar t)) := do
  let bytes ← b.load
  Action.ensure (b.offset % t.bytes = 0 ∧ b.size % t.bytes = 0) (.layout t.name b.offset b.size)
  return Scalar.decodeAll t bytes

/-- Use an operand as the launch must read it: from a snapshot, dropped
    afterwards, if it shares the allocation of the destination. -/
def withOperand {α : Type} (destination operand : Buffer)
    (use : Buffer → Action DeviceError α) : Action DeviceError α := do
  if operand.allocation = destination.allocation then
    let snapshot ← operand.detach
    (use snapshot).thenDrop snapshot.allocation
  else use operand

/-- What a launch of `n` items makes of the scalars of its destination. -/
def accumulate {t : ScalarType} (d : Direction) (g : Grid) (n block : Nat)
    (destination : List (Scalar t)) (indices : List (Scalar .int32)) (source : List (Scalar t)) :
    Launch.Progress t :=
  match d with
  | .scatter => Launch.scatter g block destination (indices.take n) (source.take (n * block))
  | .gather =>
    let progress :=
      Launch.gather g block (destination.take (n * block)) (indices.take n) source
    { progress with values := progress.values ++ destination.drop (n * block) }

/-! ## Launches -/

/-- Launch on operands that are not ranges of the destination's allocation. A
    grid that no number of blocks covers stops it before any operand is read. -/
def launchApart (d : Direction) (t : ScalarType) (destination indices source : Buffer)
    (n block : Nat) (g : Grid) : Action DeviceError Unit := do
  let _ ← Action.checked (g.blocks? n)
  let old ← scalars t destination
  let positions ← scalars .int32 indices
  let values ← scalars t source
  let progress := accumulate d g n block old positions values
  destination.store (Scalar.encodeAll progress.values)
  unless progress.finished do Action.trap

/-- Launch an accumulating kernel. Without work items it does nothing. -/
def launch (d : Direction) (t : ScalarType) (destination indices source : Buffer)
    (n block : Nat) (g : Grid) : Action DeviceError Unit := do
  if n = 0 then return ()
  checkOperands d t destination indices source n block
  destination.acquire
  source.acquire
  indices.acquire
  withOperand destination source fun source =>
    withOperand destination indices fun indices =>
      launchApart d t destination indices source n block g

/-- Launch a reducing kernel. -/
def launchReduction (r : Reduction) (t : ScalarType) (source : Buffer) (g : Grid) :
    Action DeviceError (Scalar t) := do
  checkType r.kernel "source" source t
  source.acquire
  Action.checked (r.launch? g (← scalars t source))

end Kernel

end DeviceMemory
