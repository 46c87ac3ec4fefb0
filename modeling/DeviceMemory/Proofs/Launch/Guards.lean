-- SUMMARY: An accepted launch ends well, at the size or the place of an operand, or at an index, and none of the preconditions that it relies on ever breaks.
import DeviceMemory.Proofs.Launch.Aliasing

/-!
# Guards of a launch

The machine relies on more than a launch checks: the memory that is written is not
read as another operand at the same time, there is an index and a block for every
item, and the cells that a scatter adds to are aligned. `launchGuarded` traps where
one of that is not so. It does what `launch` does on all operands that are accepted,
so no guard is ever met, whatever overlaps (`launch_ends_cleanly`). What is left is a
size that does not fit in a snapshot, a place that is not one of whole, aligned
scalars, and an index that addresses no block.
-/

namespace DeviceMemory

open DeviceMemory.Action

/-! ## Preconditions -/

namespace Action

variable {ε β : Type} {s : Store}

/-- Stop unless the condition holds. -/
def require (condition : Prop) [Decidable condition] : Action ε Unit :=
  if condition then pure () else trap

theorem exec_require_bind {condition : Prop} [Decidable condition] (h : condition)
    (next : Unit → Action ε β) : exec (require condition >>= next) s = exec (next ()) s := by
  rw [require, if_pos h]
  exact exec_bind_of_ok rfl

end Action

namespace Kernel

open Launch

variable {d : Direction} {t : ScalarType} {g : Grid} {n block : Nat} {s ready : Store}
  {destination indices source : Buffer}

/-! ## Guarded launches -/

/-- A launch on operands as they are that stops where a precondition of its items is broken. -/
def launchApartGuarded (d : Direction) (t : ScalarType) (destination indices source : Buffer)
    (n block : Nat) (g : Grid) : Action DeviceError Unit := do
  let _ ← Action.checked (g.blocks? n)
  -- the memory that is written is lent out once
  Action.require (indices.allocation ≠ destination.allocation ∧
    source.allocation ≠ destination.allocation)
  let old ← scalars t destination
  let positions ← scalars .int32 indices
  let values ← scalars t source
  -- every item has an index and a block
  Action.require (n ≤ positions.length ∧ n * block ≤ (d.itemized old values).length)
  -- additions that may meet go to aligned cells
  Action.require (d = .scatter → destination.offset % t.bytes = 0)
  let progress := accumulate d g n block old positions values
  destination.store (Scalar.encodeAll progress.values)
  unless progress.finished do Action.trap

/-- A launch that stops where a precondition of its items is broken. -/
def launchGuarded (d : Direction) (t : ScalarType) (destination indices source : Buffer)
    (n block : Nat) (g : Grid) : Action DeviceError Unit := do
  if n = 0 then return ()
  checkOperands d t destination indices source n block
  destination.acquire
  source.acquire
  indices.acquire
  withOperand destination source fun source =>
    withOperand destination indices fun indices =>
      launchApartGuarded d t destination indices source n block g

/-- Accepted operands in other allocations than the destination break no precondition. -/
theorem Accepted.exec_launchApartGuarded (h : Accepted d t destination indices source n block)
    (hindices : indices.allocation ≠ destination.allocation)
    (hsource : source.allocation ≠ destination.allocation) :
    exec (launchApartGuarded d t destination indices source n block g) s =
      exec (launchApart d t destination indices source n block g) s := by
  rw [launchApartGuarded, launchApart]
  refine exec_bind_congr fun _ s₁ _ => ?_
  rw [exec_require_bind ⟨hindices, hsource⟩]
  refine exec_bind_congr fun old s₂ hold => ?_
  obtain ⟨hbacked, ⟨haligned, -⟩, rfl, rfl⟩ := of_exec_scalars hold
  refine exec_bind_congr fun positions s₃ hpositions => ?_
  obtain ⟨hbacked₁, -, rfl, rfl⟩ := of_exec_scalars hpositions
  refine exec_bind_congr fun values s₄ hvalues => ?_
  obtain ⟨hbacked₂, -, rfl, rfl⟩ := of_exec_scalars hvalues
  have hindexed : n ≤ (indices.values .int32 s₄).length := by
    rw [hbacked₁.length_values h.indices_dtype]
    exact h.indexed
  have hitemized : n * block ≤
      (d.itemized (destination.values t s₄) (source.values t s₄)).length := by
    rw [length_itemized hbacked h.destination_dtype hbacked₂ h.source_dtype]
    exact h.itemized
  rw [exec_require_bind ⟨hindexed, hitemized⟩, exec_require_bind fun _ => haligned]

/-- No precondition is broken on the way from operands that were accepted to a result. -/
theorem Accepted.exec_launchGuarded (h : Accepted d t destination indices source n block)
    (hitems : 1 ≤ n)
    (hready : exec (do destination.acquire; source.acquire; indices.acquire) s = (.ok (), ready))
    (hs : Served destination indices source ready) :
    exec (launchGuarded d t destination indices source n block g) s =
      exec (launch d t destination indices source n block g) s := by
  obtain ⟨hdestination, hindices, hsource, hgrants⟩ := hs
  obtain ⟨_, s₁, hacquire, hlater⟩ := exists_of_exec_bind hready
  obtain ⟨_, s₂, hacquire', hacquire''⟩ := exists_of_exec_bind hlater
  rw [h.exec_launch_ready hitems hready, launchGuarded, if_neg (Nat.ne_of_gt hitems),
    exec_bind_of_ok h.exec_checkOperands, exec_bind_of_ok hacquire, exec_bind_of_ok hacquire',
    exec_bind_of_ok hacquire'']
  refine (operandUse hdestination hsource hgrants).exec_congr fun source' s₃ hsource' hgrants => ?_
  have hs₃ := hsource'.extended
  rw [← snapshotRequests_extends hs₃ hindices.backed] at hgrants
  refine (operandUse (hdestination.of_extends hs₃) (hindices.of_extends hs₃) hgrants).exec_congr
    fun indices' s₄ hindices' _ => ?_
  -- what stands for operands that were accepted would be accepted, and shares nothing
  have hchecks : exec (checkOperands d t destination indices' source' n block) s =
      (.ok (), s) := by
    rw [checkOperands_congr hindices'.dtype_eq hindices'.size_eq hsource'.dtype_eq
      hsource'.size_eq, h.exec_checkOperands]
  exact (of_exec_checkOperands hchecks).2.exec_launchApartGuarded hindices'.apart hsource'.apart

/-! ## Clean ends -/

/-- The launch has made its checks, and its operands passed them. A launch without items makes
    none, and does nothing. -/
structure Validated (d : Direction) (t : ScalarType) (destination indices source : Buffer)
    (n block : Nat) : Prop where
  items_pos : 1 ≤ n
  accepted : Accepted d t destination indices source n block

/-- The items of an accepted launch stop only at an index that addresses no block. -/
theorem Accepted.finished_result_iff (h : Accepted d t destination indices source n block)
    (hthreads : 1 ≤ g.threadsPerBlock) (hspan : g.threadsPerBlock * block < Word.limit)
    (hs : Served destination indices source s) :
    (result d t destination indices source n block g s).finished = true ↔
      ∀ i < n, Addresses (indexAt (indices.values .int32 s) i) block
        (d.addressed destination source).numel := by
  have hdestination := hs.destination_inside.backed
  have hsource := hs.source_inside.backed
  have hindexed : n ≤ (indices.values .int32 s).length := by
    rw [hs.indices_inside.backed.length_values h.indices_dtype]
    exact h.indexed
  have hitemized : n * block ≤
      (d.itemized (destination.values t s) (source.values t s)).length := by
    rw [length_itemized hdestination h.destination_dtype hsource h.source_dtype]
    exact h.itemized
  rw [result, finished_accumulate_iff hthreads h.block_pos hspan hindexed hitemized,
    length_addressed hdestination h.destination_dtype hsource h.source_dtype]

/-- A validated launch on any views, with any aliasing, ends in one of few ways once the
    operands have memory and snapshots are granted. An operand that is read from a snapshot
    and does not fit in it is a mismatch of sizes. Else a place of the destination, or of an
    operand that is read where it lies, that does not hold whole, aligned scalars is a layout
    fault, and only that is one. In both cases no byte changes. Else the items run, and the
    launch traps if and only if one of the first indices addresses no block, and ends well if
    and only if all do. No guard is ever met. -/
theorem launch_ends_cleanly (h : Validated d t destination indices source n block)
    (hthreads : 1 ≤ g.threadsPerBlock) (hspan : g.threadsPerBlock * block < Word.limit)
    (hready : exec (do destination.acquire; source.acquire; indices.acquire) s = (.ok (), ready))
    (hs : Served destination indices source ready) :
    ∃ outcome s', exec (launch d t destination indices source n block g) s = (outcome, s') ∧
      exec (launchGuarded d t destination indices source n block g) s = (outcome, s') ∧
      (Oversized destination source ∨ Oversized destination indices →
        (∃ expected actual, outcome = .error (.error (.sizeMismatch expected actual))) ∧
          ∀ id, s'.block? id = ready.block? id) ∧
      (¬(Oversized destination source ∨ Oversized destination indices) →
        ((∃ name offset size, outcome = .error (.error (.layout name offset size))) ↔
          destination.Misplaced ∨ Misread destination indices ∨ Misread destination source) ∧
        (destination.Misplaced ∨ Misread destination indices ∨ Misread destination source →
          ∀ id, s'.block? id = ready.block? id) ∧
        (¬(destination.Misplaced ∨ Misread destination indices ∨ Misread destination source) →
          (outcome = .error .trap ↔
            ∃ i < n, ¬Addresses (indexAt (indices.values .int32 ready) i) block
              (d.addressed destination source).numel) ∧
          (outcome = .ok () ↔
            ∀ i < n, Addresses (indexAt (indices.values .int32 ready) i) block
              (d.addressed destination source).numel))) := by
  obtain ⟨hitems, h⟩ := h
  have hdestination := hs.destination_inside.backed
  obtain ⟨s', hexec, hwritten⟩ := h.endsAs_launchReady (g := g) hs
  have hlaunch := (h.exec_launch_ready hitems hready).trans hexec
  refine ⟨_, s', hlaunch, (h.exec_launchGuarded hitems hready hs).trans hlaunch, fun hover => ?_,
    fun hfits => ?_⟩
  · obtain ⟨expected, actual, hfault⟩ := fault?_of_oversized (g := g) hover
    rw [hfault] at hwritten ⊢
    exact ⟨⟨expected, actual, rfl⟩, hwritten.block?_of_same hdestination⟩
  by_cases hplace :
    destination.Misplaced ∨ Misread destination indices ∨ Misread destination source
  · obtain ⟨name, offset, size, hfault⟩ := fault?_of_misplaced (Nat.ne_of_gt hthreads) hfits hplace
    rw [hfault] at hwritten ⊢
    exact ⟨iff_of_true ⟨name, offset, size, rfl⟩ hplace,
      fun _ => hwritten.block?_of_same hdestination, fun hnot => absurd hplace hnot⟩
  · have hfinished := h.finished_result_iff hthreads hspan hs
    rw [fault?_eq_none_iff.mpr ⟨hfits, Nat.ne_of_gt hthreads, hplace⟩]
    refine ⟨iff_of_false ?_ hplace, fun h => absurd h hplace, fun _ => ⟨?_, ?_⟩⟩
    · rintro ⟨name, offset, size, hlayout⟩
      exact outcome_ne_error _ _ hlayout
    · refine outcome_eq_trap_iff.trans ((not_congr hfinished).trans ?_)
      simp only [not_forall, exists_prop]
    · exact outcome_eq_ok_iff.trans hfinished

/-- The source overlaps the destination at an odd place, and the second index is too large. -/
theorem launch_ends_cleanly_sixIntegers :
    ∃ s', exec (launchGuarded .scatter .int32 ⟨0, 0, 12, .int32, [3]⟩ ⟨0, 16, 8, .int32, [2]⟩
        ⟨0, 5, 8, .int32, [2]⟩ 2 1 ⟨1⟩) sixIntegers = (.error .trap, s') := by
  have hready : exec (do
      Buffer.acquire ⟨0, 0, 12, .int32, [3]⟩
      Buffer.acquire ⟨0, 5, 8, .int32, [2]⟩
      Buffer.acquire ⟨0, 16, 8, .int32, [2]⟩) sixIntegers = (.ok (), sixIntegers) := rfl
  have hvalidated : Validated .scatter .int32 ⟨0, 0, 12, .int32, [3]⟩ ⟨0, 16, 8, .int32, [2]⟩
      ⟨0, 5, 8, .int32, [2]⟩ 2 1 :=
    ⟨by decide, by decide, rfl, rfl, rfl, by decide, by decide, by decide⟩
  have hserved : Served ⟨0, 0, 12, .int32, [3]⟩ ⟨0, 16, 8, .int32, [2]⟩ ⟨0, 5, 8, .int32, [2]⟩
      sixIntegers :=
    ⟨⟨_, rfl, by decide, by decide⟩, ⟨_, rfl, by decide, by decide⟩,
      ⟨_, rfl, by decide, by decide⟩, by decide⟩
  obtain ⟨outcome, s', -, hguarded, -, hends⟩ :=
    launch_ends_cleanly (g := ⟨1⟩) hvalidated (by decide) (by decide) hready hserved
  have htrap := ((hends (by decide)).2.2 (by decide)).1.mpr ⟨1, by decide, by decide⟩
  exact ⟨s', htrap ▸ hguarded⟩

end Kernel

end DeviceMemory
