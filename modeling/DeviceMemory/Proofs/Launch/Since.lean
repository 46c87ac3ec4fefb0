-- SUMMARY: What launches change: the destination's allocation if they end well, nothing if they are refused.
import DeviceMemory.Launch.Kernel
import DeviceMemory.Proofs.Buffer.Since

/-!
# Launches and what they change

A launch writes to its destination as the last thing that it does, after every
check, every operand read and every snapshot made. So whatever refuses it leaves
the bytes and the handles of its users as they were.
-/

namespace DeviceMemory.Kernel

open DeviceMemory.Action

variable {s₀ : Store} {written written' : Set AllocationId} {extra : Multiset AllocationId}
  {destination indices source : Buffer}

/-! ## Checks and operands -/

theorem since_checkOperands {d : Direction} {t : ScalarType} {n block : Nat} :
    Triple (s₀.Since written extra) (checkOperands d t destination indices source n block)
      (fun _ => s₀.Since written extra) (s₀.Since written extra) := by
  refine Triple.bind (triple_ensure fun _ hs => hs) fun _ => ?_
  refine Triple.bind (triple_ensure fun _ hs => hs) fun _ => ?_
  refine Triple.bind (triple_ensure fun _ hs => hs) fun _ => ?_
  refine Triple.bind (triple_ensure fun _ hs => hs) fun _ => ?_
  refine Triple.bind (triple_ensure fun _ hs => hs) fun _ => ?_
  refine Triple.bind triple_checked fun required => ?_
  cases d with
  | scatter => exact triple_ensure fun _ hs => hs
  | gather => exact triple_ensure fun _ hs => hs

theorem since_scalars (t : ScalarType) (b : Buffer) :
    Triple (s₀.Since written extra) (scalars t b) (fun _ => s₀.Since written extra)
      (s₀.Since written extra) := by
  refine Triple.bind (Buffer.since_load b) fun bytes => ?_
  exact Triple.bind (triple_ensure fun _ hs => hs) fun _ => Triple.pure fun _ hs => hs

/-- What is run on an operand may also be run on a snapshot, with one more handle made. -/
theorem since_withOperand {α : Type} (operand : Buffer) {use : Buffer → Action DeviceError α}
    (huse : ∀ operand extra, Triple (s₀.Since written extra) (use operand)
      (fun _ => s₀.Since written' extra) (s₀.Since written extra)) :
    Triple (s₀.Since written extra) (withOperand destination operand use)
      (fun _ => s₀.Since written' extra) (s₀.Since written extra) := by
  unfold withOperand
  split
  next =>
    refine Triple.bind (Buffer.since_detach operand) fun snapshot => ?_
    exact (triple_thenDropMade (huse snapshot _)).conseq (fun _ hs => hs.1) (fun _ _ hs => hs)
      fun _ hs => hs
  next => exact huse operand extra

/-! ## Launches -/

/-- Nothing follows the write but a trap. -/
theorem since_launchApart (d : Direction) (t : ScalarType) (destination indices source : Buffer)
    (n block : Nat) (g : Grid) :
    Triple (s₀.Since written extra) (launchApart d t destination indices source n block g)
      (fun _ => s₀.Since (insert destination.allocation written) extra)
      (s₀.Since written extra) := by
  refine Triple.bind triple_checked fun _ => ?_
  refine Triple.bind (since_scalars t destination) fun old => ?_
  refine Triple.bind (since_scalars .int32 indices) fun positions => ?_
  refine Triple.bind (since_scalars t source) fun values => ?_
  refine Triple.bind (Buffer.since_store destination _) fun _ => ?_
  split
  next => exact Triple.pure fun _ hs => hs
  next => exact triple_trap

theorem since_launch (d : Direction) (t : ScalarType) (destination indices source : Buffer)
    (n block : Nat) (g : Grid) :
    Triple (s₀.Since written extra) (launch d t destination indices source n block g)
      (fun _ => s₀.Since (insert destination.allocation written) extra)
      (s₀.Since written extra) := by
  unfold launch
  split
  next => exact Triple.pure fun _ hs => hs.mono (Set.subset_insert ..)
  next =>
    refine Triple.bind since_checkOperands fun _ => ?_
    refine Triple.bind (Buffer.since_acquire destination) fun _ => ?_
    refine Triple.bind (Buffer.since_acquire source) fun _ => ?_
    refine Triple.bind (Buffer.since_acquire indices) fun _ => ?_
    refine since_withOperand source fun source extra => ?_
    refine since_withOperand indices fun indices extra => ?_
    exact since_launchApart d t destination indices source n block g

theorem since_launchReduction (r : Reduction) (t : ScalarType) (source : Buffer) (g : Grid) :
    Triple (s₀.Since written extra) (launchReduction r t source g)
      (fun _ => s₀.Since written extra) (s₀.Since written extra) := by
  refine Triple.bind (triple_ensure fun _ hs => hs) fun _ => ?_
  refine Triple.bind (Buffer.since_acquire source) fun _ => ?_
  exact Triple.bind (since_scalars t source) fun values => triple_checked

end DeviceMemory.Kernel
