-- SUMMARY: Launches keep the store balanced: snapshots are dropped however the launch ends.
import DeviceMemory.Launch.Kernel
import DeviceMemory.Proofs.Buffer.Balance

/-!
# Launches and holdings

A launch leaves its users with what they held. It may hold one snapshot for each
operand that shares the allocation of the destination, and it drops every
snapshot on every way out, the traps of its checks apart.
-/

namespace DeviceMemory.Kernel

open DeviceMemory.Action

variable {h : Holdings} {destination indices source : Buffer}

/-! ## Checks -/

theorem triple_checkType {kernel role : String} {b : Buffer} {t : ScalarType} :
    Triple (Holds h) (checkType kernel role b t) (fun _ => Holds h) (Holds h) :=
  triple_ensure fun _ hs => hs

theorem triple_checkLength {kernel role : String} {b : Buffer} {required : Nat} :
    Triple (Holds h) (checkLength kernel role b required) (fun _ => Holds h) (Holds h) :=
  triple_ensure fun _ hs => hs

theorem triple_checkOperands {d : Direction} {t : ScalarType} {n block : Nat} :
    Triple (Holds h) (checkOperands d t destination indices source n block) (fun _ => Holds h)
      (Holds h) := by
  refine Triple.bind (triple_ensure fun _ hs => hs) fun _ => ?_
  refine Triple.bind (triple_checkType) fun _ => ?_
  refine Triple.bind (triple_checkType) fun _ => ?_
  refine Triple.bind (triple_checkType) fun _ => ?_
  refine Triple.bind (triple_checkLength) fun _ => ?_
  refine Triple.bind triple_checked fun required => ?_
  cases d with
  | scatter => exact triple_checkLength
  | gather => exact triple_checkLength

/-! ## Operands -/

theorem triple_scalars (t : ScalarType) (b : Buffer) :
    Triple (Holds h) (scalars t b) (fun _ => Holds h) (Holds h) := by
  refine Triple.bind Buffer.triple_load fun bytes => ?_
  exact Triple.bind (triple_ensure fun _ hs => hs) fun _ => Triple.pure fun _ hs => hs

/-- What is run on an operand may also be run on a snapshot, with one more thing held. -/
theorem triple_withOperand {α : Type} {operand : Buffer} {use : Buffer → Action DeviceError α}
    (hoperand : operand.allocation ∈ h.handles)
    (huse : ∀ operand k, Triple (Holds (h + k)) (use operand) (fun _ => Holds (h + k))
      (Holds (h + k))) :
    Triple (Holds h) (withOperand destination operand use) (fun _ => Holds h) (Holds h) := by
  unfold withOperand
  split
  next =>
    refine Triple.bind (Buffer.triple_detach hoperand) fun snapshot => ?_
    exact triple_thenDropHandle (huse snapshot (.handle snapshot.allocation))
  next => simpa using huse operand 0

/-! ## Launches -/

theorem triple_launchApart {d : Direction} {t : ScalarType} {n block : Nat} {g : Grid} :
    Triple (Holds h) (launchApart d t destination indices source n block g) (fun _ => Holds h)
      (Holds h) := by
  refine Triple.bind triple_checked fun _ => ?_
  refine Triple.bind (triple_scalars t destination) fun old => ?_
  refine Triple.bind (triple_scalars .int32 indices) fun positions => ?_
  refine Triple.bind (triple_scalars t source) fun values => ?_
  refine Triple.bind (Buffer.triple_store _) fun _ => ?_
  split
  next => exact Triple.pure fun _ hs => hs
  next => exact triple_trap

theorem triple_launch (d : Direction) (t : ScalarType) (n block : Nat) (g : Grid)
    (hdestination : destination.allocation ∈ h.handles)
    (hindices : indices.allocation ∈ h.handles) (hsource : source.allocation ∈ h.handles) :
    Triple (Holds h) (launch d t destination indices source n block g) (fun _ => Holds h)
      (Holds h) := by
  unfold launch
  split
  next => exact Triple.pure fun _ hs => hs
  next =>
    refine Triple.bind (triple_checkOperands) fun _ => ?_
    refine Triple.bind (Buffer.triple_acquire hdestination) fun _ => ?_
    refine Triple.bind (Buffer.triple_acquire hsource) fun _ => ?_
    refine Triple.bind (Buffer.triple_acquire hindices) fun _ => ?_
    refine triple_withOperand hsource fun source k => ?_
    refine triple_withOperand (by simp [hindices]) fun indices k' => ?_
    exact triple_launchApart

theorem triple_launchReduction (r : Reduction) (t : ScalarType) (g : Grid)
    (hsource : source.allocation ∈ h.handles) :
    Triple (Holds h) (launchReduction r t source g) (fun _ => Holds h) (Holds h) := by
  refine Triple.bind (triple_checkType) fun _ => ?_
  refine Triple.bind (Buffer.triple_acquire hsource) fun _ => ?_
  exact Triple.bind (triple_scalars t source) fun values => triple_checked

end DeviceMemory.Kernel
