-- SUMMARY: What a launch with items checks of its operands before it touches memory, and which launches it refuses for it.
import DeviceMemory.Launch.Kernel
import DeviceMemory.Proofs.Buffer.Contents

/-!
# Checks of a launch

A launch with items looks at the types and the lengths of its operands first. If
they are not `Kernel.Accepted` it ends there, and the store is the one it found:
nothing was written and no operand got memory. It ends as a launch that was refused
in the name of its kernel, with one exception: where the scalars that the items
need are more than a word counts, the product of items and scalars stops it
(`launch_refuses_undersized`).
-/

namespace DeviceMemory

open DeviceMemory.Action

namespace Direction

/-- The operand whose blocks the indices address. -/
def addressed {α : Type} (d : Direction) (destination source : α) : α :=
  match d with
  | .scatter => destination
  | .gather => source

/-- The operand that has a block for every item. -/
def itemized {α : Type} (d : Direction) (destination source : α) : α :=
  match d with
  | .scatter => source
  | .gather => destination

end Direction

namespace Kernel

variable {d : Direction} {t : ScalarType} {n block : Nat} {s s' : Store}
  {destination indices source : Buffer}

/-! ## Operands that are accepted -/

/-- The operands have the types and the scalars that the items of a launch need. -/
structure Accepted (d : Direction) (t : ScalarType) (destination indices source : Buffer)
    (n block : Nat) : Prop where
  block_pos : 1 ≤ block
  destination_dtype : destination.dtype = t
  source_dtype : source.dtype = t
  indices_dtype : indices.dtype = .int32
  indexed : n ≤ indices.numel
  product_lt : n * block < Word.limit
  itemized : n * block ≤ (d.itemized destination source).numel

theorem exec_checkType {α : Type} {kernel role : String} {b : Buffer} (hdtype : b.dtype = t)
    (next : Unit → Action DeviceError α) :
    exec (checkType kernel role b t >>= next) s = exec (next ()) s :=
  exec_ensure_bind hdtype _ next

theorem exec_checkLength {kernel role : String} {b : Buffer} {required : Nat}
    (hlength : required ≤ b.numel) : exec (checkLength kernel role b required) s = (.ok (), s) := by
  rw [checkLength, exec_ensure, if_pos hlength]

/-- The checks up to those that the product of items and scalars is needed for. -/
theorem exec_checkOperands_of_fit (hblock : block ≠ 0) (hdestination : destination.dtype = t)
    (hsource : source.dtype = t) (hindices : indices.dtype = .int32)
    (hindexed : n ≤ indices.numel) :
    exec (checkOperands d t destination indices source n block) s =
      exec (do
        let required ← Action.checked (Word.mul? n block)
        match d with
        | .scatter => checkLength d.kernel "source" source required
        | .gather => checkLength d.kernel "destination" destination required) s := by
  rw [checkOperands, exec_ensure_bind hblock, exec_checkType hdestination, exec_checkType hsource,
    exec_checkType hindices]
  exact exec_bind_of_ok (exec_checkLength hindexed)

theorem Accepted.exec_checkOperands (h : Accepted d t destination indices source n block) :
    exec (checkOperands d t destination indices source n block) s = (.ok (), s) := by
  have hproduct : Word.mul? n block = some (n * block) :=
    Word.mul?_eq_some_iff.mpr ⟨h.product_lt, rfl⟩
  rw [exec_checkOperands_of_fit (Nat.ne_of_gt h.block_pos) h.destination_dtype h.source_dtype
    h.indices_dtype h.indexed, exec_checked_bind hproduct]
  cases d with
  | scatter => exact exec_checkLength h.itemized
  | gather => exact exec_checkLength h.itemized

/-- Operands that pass are accepted. -/
theorem of_exec_checkOperands
    (h : exec (checkOperands d t destination indices source n block) s = (.ok (), s')) :
    s' = s ∧ Accepted d t destination indices source n block := by
  obtain ⟨hblock, h⟩ := of_exec_ensure_bind h
  obtain ⟨hdestination, h⟩ := of_exec_ensure_bind h
  obtain ⟨hsource, h⟩ := of_exec_ensure_bind h
  obtain ⟨hindices, h⟩ := of_exec_ensure_bind h
  obtain ⟨hindexed, h⟩ := of_exec_ensure_bind h
  obtain ⟨required, hproduct, h⟩ := of_exec_checked_bind h
  obtain ⟨hlt, rfl⟩ := Word.mul?_eq_some_iff.mp hproduct
  have hitemized : n * block ≤ (d.itemized destination source).numel ∧ s' = s := by
    cases d with
    | scatter => exact of_exec_ensure h
    | gather => exact of_exec_ensure h
  exact ⟨hitemized.2, Nat.one_le_iff_ne_zero.mpr hblock, hdestination, hsource, hindices, hindexed,
    hlt, hitemized.1⟩

/-- The checks see types and sizes only. -/
theorem checkOperands_congr {indices' source' : Buffer}
    (hindicesType : indices'.dtype = indices.dtype) (hindicesSize : indices'.size = indices.size)
    (hsourceType : source'.dtype = source.dtype) (hsourceSize : source'.size = source.size) :
    checkOperands d t destination indices' source' n block =
      checkOperands d t destination indices source n block := by
  cases indices
  cases indices'
  cases source
  cases source'
  cases hindicesType
  cases hindicesSize
  cases hsourceType
  cases hsourceSize
  rfl

/-! ## Operands that are refused -/

/-- Something is wrong with the operands that shows without a product. -/
def Unfit (t : ScalarType) (destination indices source : Buffer) (n block : Nat) : Prop :=
  block = 0 ∨ destination.dtype ≠ t ∨ source.dtype ≠ t ∨ indices.dtype ≠ .int32 ∨
    indices.numel < n

theorem exec_checkOperands_of_unfit (h : Unfit t destination indices source n block) :
    ∃ reason, exec (checkOperands d t destination indices source n block) s =
      (.error (.error (.launchFailed d.kernel reason)), s) := by
  rw [checkOperands]
  by_cases hblock : block = 0
  · exact ⟨_, exec_ensure_bind_of_not (not_not.mpr hblock) _ _⟩
  rw [exec_ensure_bind hblock]
  by_cases hdestination : destination.dtype = t
  swap
  · exact ⟨_, exec_ensure_bind_of_not hdestination _ _⟩
  rw [exec_checkType hdestination]
  by_cases hsource : source.dtype = t
  swap
  · exact ⟨_, exec_ensure_bind_of_not hsource _ _⟩
  rw [exec_checkType hsource]
  by_cases hindices : indices.dtype = .int32
  swap
  · exact ⟨_, exec_ensure_bind_of_not hindices _ _⟩
  rw [exec_checkType hindices]
  have hindexed : ¬n ≤ indices.numel := by
    simpa [Unfit, hblock, hdestination, hsource, hindices] using h
  exact ⟨_, exec_ensure_bind_of_not hindexed _ _⟩

/-- What is not unfit passes all checks but the last one. -/
theorem exec_checkOperands_of_not_unfit (h : ¬Unfit t destination indices source n block) :
    exec (checkOperands d t destination indices source n block) s =
      exec (do
        let required ← Action.checked (Word.mul? n block)
        match d with
        | .scatter => checkLength d.kernel "source" source required
        | .gather => checkLength d.kernel "destination" destination required) s := by
  simp only [Unfit, not_or, not_not, not_lt] at h
  obtain ⟨hblock, hdestination, hsource, hindices, hindexed⟩ := h
  exact exec_checkOperands_of_fit hblock hdestination hsource hindices hindexed

theorem exec_checkOperands_of_short (h : ¬Unfit t destination indices source n block)
    (hproduct : n * block < Word.limit)
    (hshort : (d.itemized destination source).numel < n * block) :
    ∃ reason, exec (checkOperands d t destination indices source n block) s =
      (.error (.error (.launchFailed d.kernel reason)), s) := by
  have hproduct : Word.mul? n block = some (n * block) := Word.mul?_eq_some_iff.mpr ⟨hproduct, rfl⟩
  rw [exec_checkOperands_of_not_unfit h, exec_checked_bind hproduct]
  cases d with
  | scatter => exact ⟨_, (exec_ensure ..).trans (if_neg (Nat.not_le.mpr hshort))⟩
  | gather => exact ⟨_, (exec_ensure ..).trans (if_neg (Nat.not_le.mpr hshort))⟩

/-! ## Launches -/

variable {g : Grid}

/-- A launch whose checks end it has changed nothing. -/
theorem exec_launch_of_refused {fault : Fault DeviceError} (hitems : 1 ≤ n)
    (hchecks : exec (checkOperands d t destination indices source n block) s =
      (.error fault, s)) :
    exec (launch d t destination indices source n block g) s = (.error fault, s) := by
  rw [launch, if_neg (Nat.ne_of_gt hitems), exec_bind_of_error hchecks]

/-- A launch with items never runs on operands that are unfit or too short. It changes nothing,
    so that no byte is written and no operand gets memory, and is refused in the name of its
    kernel. Only where nothing but a length is wrong, and the scalars that the items need are
    more than a word counts, it traps. -/
theorem launch_refuses_undersized (hitems : 1 ≤ n)
    (hwrong : Unfit t destination indices source n block ∨
      (d.itemized destination source).numel < n * block) :
    (Unfit t destination indices source n block ∨ n * block < Word.limit →
      ∃ reason, exec (launch d t destination indices source n block g) s =
        (.error (.error (.launchFailed d.kernel reason)), s)) ∧
    (¬Unfit t destination indices source n block → Word.limit ≤ n * block →
      exec (launch d t destination indices source n block g) s = (.error .trap, s)) := by
  constructor
  · intro hreach
    by_cases hunfit : Unfit t destination indices source n block
    · obtain ⟨reason, hchecks⟩ := exec_checkOperands_of_unfit hunfit
      exact ⟨reason, exec_launch_of_refused hitems hchecks⟩
    · obtain ⟨reason, hchecks⟩ := exec_checkOperands_of_short hunfit
        (hreach.resolve_left hunfit) (hwrong.resolve_left hunfit)
      exact ⟨reason, exec_launch_of_refused hitems hchecks⟩
  · intro hfit hwide
    refine exec_launch_of_refused hitems ?_
    rw [exec_checkOperands_of_not_unfit hfit, Word.mul?_eq_none_iff.mpr hwide]
    rfl

/-- A store with one allocation, of six integers that have no memory yet. -/
def sixUnused : Store :=
  (exec (Buffer.create 0 .int32 [6] false : Action DeviceError Buffer)
    ⟨[Stack.new .host [.recycling 1, .metered]], [], [], [], false⟩).2

/-- Six integers are no three items of three, and get no memory for them. -/
theorem launch_refuses_undersized_sixUnused :
    (∃ reason, exec (launch .scatter .int32 ⟨0, 0, 24, .int32, [6]⟩ ⟨0, 0, 24, .int32, [6]⟩
        ⟨0, 0, 24, .int32, [6]⟩ 3 3 ⟨1⟩) sixUnused =
          (.error (.error (.launchFailed "scatter_add" reason)), sixUnused)) ∧
      Buffer.isAllocated ⟨0, 0, 24, .int32, [6]⟩ sixUnused = false := by
  refine ⟨?_, by decide⟩
  exact (launch_refuses_undersized (by decide) (.inr (by decide))).1
    (.inr (by decide))

/-- Six integers are not two items of `2 ^ 63` either, but the launch traps. -/
theorem launch_traps_on_wide_product :
    Buffer.numel ⟨0, 0, 24, .int32, [6]⟩ < 2 * 2 ^ 63 ∧
      exec (launch .scatter .int32 ⟨0, 0, 24, .int32, [6]⟩ ⟨0, 0, 24, .int32, [6]⟩
        ⟨0, 0, 24, .int32, [6]⟩ 2 (2 ^ 63) ⟨1⟩) sixUnused = (.error .trap, sixUnused) :=
  ⟨by decide, rfl⟩

end Kernel

end DeviceMemory
