-- SUMMARY: A gather adds into the first blocks of its destination, one scalar of the source to each, up to the first index without a block.
import DeviceMemory.Proofs.Launch.Inverse

/-!
# Gathering

The blocks that a gather adds into come one after another, so no two items meet and
each scalar has one addition: `Gathered` says which scalar of the source it is. A
gather has either gathered as many blocks as there are items, or it met an index that
addresses no block of the source and has gathered the blocks before it, whatever the
number of threads (`gather_refines_loop`).
-/

namespace DeviceMemory.Launch

variable {t : ScalarType} {block count : Nat} {indices : List (Scalar .int32)}
  {source destination values : List (Scalar t)}

/-! ## Gathered blocks -/

/-- The values are those of the destination, with the blocks of the source that the first
    indices address added into the first blocks. -/
structure Gathered (block count : Nat) (indices : List (Scalar .int32))
    (source destination values : List (Scalar t)) : Prop where
  added : ∀ i < count, ∀ k < block, ∃ old given, destination[i * block + k]? = some old ∧
    source[(indexAt indices i).toNat * block + k]? = some given ∧
    values[i * block + k]? = some (Scalar.add old given)
  kept : ∀ q, count * block ≤ q → values[q]? = destination[q]?

/-- Where an index addresses a block there are all scalars of it. -/
theorem Addresses.inside {index : Int} {length k : Nat} (h : Addresses index block length)
    (hk : k < block) : index.toNat * block + k < length := by
  have hstop : index.toNat * block + block ≤ length :=
    Nat.succ_mul .. ▸ (addresses_iff.mp h).2
  omega

/-- Blocks before the last whole one of a list lie inside. -/
theorem inside_of_lt_gatherCount {i k : Nat} (hi : i < gatherCount block destination indices)
    (hk : k < block) : i * block + k < destination.length := by
  have hstop : i * block + block ≤ destination.length :=
    mul_add_le_of_lt_div (Nat.lt_of_lt_of_le hi (Nat.min_le_right ..))
  omega

/-- The loop over the first items gathers the first blocks. -/
theorem gathered_gatherLoop (hcount : count ≤ gatherCount block destination indices)
    (hall : ∀ i < count, Addresses (indexAt indices i) block source.length) :
    Gathered block count indices source destination
      (gatherLoop block count destination indices source) where
  added i hi k hk := by
    have hold : i * block + k < destination.length :=
      inside_of_lt_gatherCount (Nat.lt_of_lt_of_le hi hcount) hk
    have hgiven : (indexAt indices i).toNat * block + k < source.length := (hall i hi).inside hk
    have hadded : (gatherLoop block count destination indices source)[i * block + k]? = _ :=
      getElem?_addBlocks_inside (fun i _ j _ hne => blocks_apart hne block) hi hk
    refine ⟨destination[i * block + k], source[(indexAt indices i).toNat * block + k],
      List.getElem?_eq_getElem hold, List.getElem?_eq_getElem hgiven, ?_⟩
    rw [hadded, List.getElem?_eq_getElem hold, Option.map_some, List.getD_eq_getElem?_getD,
      List.getElem?_eq_getElem hgiven, Option.getD_some]
  kept q hq := by
    refine getElem?_addBlocks source destination fun i hi => .inr ?_
    have hlast : (i + 1) * block ≤ count * block := Nat.mul_le_mul_right block hi
    rw [Nat.succ_mul] at hlast
    exact Nat.le_trans hlast hq

/-! ## Launches -/

variable {g g' : Grid}

/-- The threads of a grid make no difference to a gather. -/
theorem gather_eq_gather (hthreads : 1 ≤ g.threadsPerBlock) (hthreads' : 1 ≤ g'.threadsPerBlock)
    (hblock : 1 ≤ block) (hspan : g.threadsPerBlock * block < Word.limit)
    (hspan' : g'.threadsPerBlock * block < Word.limit) :
    gather g' block destination indices source = gather g block destination indices source := by
  by_cases hall : ∀ i < gatherCount block destination indices,
      Addresses (indexAt indices i) block source.length
  · rw [gather_of_all hthreads' hblock hspan' hall, gather_of_all hthreads hblock hspan hall]
  · obtain ⟨j, hj, hbefore, hstop⟩ := exists_first hall
    rw [gather_of_first hthreads' hblock hspan' hj hbefore hstop,
      gather_of_first hthreads hblock hspan hj hbefore hstop]

/-- A gather does what its loop over items and scalars does, whatever the number of threads. If
    every index addresses a block of the source it runs to the end and has gathered all its
    blocks. Else it stops at the first index that addresses none and has gathered exactly the
    blocks before it. The machine finds the block of an index exactly where there is one. If
    the scalars are integers, what is added wraps to the width of their type. -/
theorem gather_refines_loop (hthreads : 1 ≤ g.threadsPerBlock) (hblock : 1 ≤ block)
    (hspan : g.threadsPerBlock * block < Word.limit) (destination : List (Scalar t))
    (indices : List (Scalar .int32)) (source : List (Scalar t)) :
    ((∀ i < gatherCount block destination indices,
          Addresses (indexAt indices i) block source.length) →
        ∃ values, gather g block destination indices source = ⟨values, true⟩ ∧
          values =
            gatherLoop block (gatherCount block destination indices) destination indices source ∧
          Gathered block (gatherCount block destination indices) indices source destination
            values) ∧
      (∀ j < gatherCount block destination indices,
        (∀ i < j, Addresses (indexAt indices i) block source.length) →
          ¬ Addresses (indexAt indices j) block source.length →
            ∃ values, gather g block destination indices source = ⟨values, false⟩ ∧
              values = gatherLoop block j destination indices source ∧
              Gathered block j indices source destination values) ∧
      (∀ g' : Grid, 1 ≤ g'.threadsPerBlock → g'.threadsPerBlock * block < Word.limit →
        gather g' block destination indices source = gather g block destination indices source) ∧
      (source.length ≤ HostMemory.largestCapacity →
        ∀ i start, machineStart? (indices.getD i (Scalar.zero .int32)) block source.length =
            some start ↔
          Addresses (indexAt indices i) block source.length ∧
            start = (indexAt indices i).toNat * block) ∧
      (t = .int32 ∨ t = .int64 →
        ∀ a b : Scalar t, (Scalar.add a b).toInt = (a.toInt + b.toInt).bmod (2 ^ t.bits)) := by
  refine ⟨fun hall => ?_, fun j hj hbefore hstop => ?_, fun g' hthreads' hspan' => ?_,
    fun hlength i start => machineStart?_eq_some_iff hblock hlength,
    Scalar.toInt_add_of_integer⟩
  · exact ⟨_, gather_of_all hthreads hblock hspan hall, rfl,
      gathered_gatherLoop (Nat.le_refl _) hall⟩
  · exact ⟨_, gather_of_first hthreads hblock hspan hj hbefore hstop, rfl,
      gathered_gatherLoop (Nat.le_of_lt hj) hbefore⟩
  · exact gather_eq_gather hthreads hthreads' hblock hspan hspan'

/-- The second index is past the end of the source, and the destination ends with a scalar that is
    no whole block. -/
theorem gather_refines_loop_pastEnd :
    ∃ values : List (Scalar .int32),
      gather ⟨2⟩ 2 [10, 20, 30, 40, 50] [1, 2] [1, 2, 3, 4, 5] = ⟨values, false⟩ ∧
        values = [13, 24, 30, 40, 50] ∧
        Gathered 2 1 [1, 2] [1, 2, 3, 4, 5] [10, 20, 30, 40, 50] values := by
  obtain ⟨values, hgather, hloop, hgathered⟩ :
      ∃ values : List (Scalar .int32),
        gather ⟨2⟩ 2 [10, 20, 30, 40, 50] [1, 2] [1, 2, 3, 4, 5] = ⟨values, false⟩ ∧
          values = gatherLoop 2 1 [10, 20, 30, 40, 50] [1, 2] [1, 2, 3, 4, 5] ∧
          Gathered 2 1 [1, 2] [1, 2, 3, 4, 5] [10, 20, 30, 40, 50] values :=
    (gather_refines_loop (by decide) (by decide) (by decide) _ _ _).2.1 1 (by decide) (by decide)
      (by decide)
  exact ⟨values, hgather, hloop.trans (by decide), hgathered⟩

end DeviceMemory.Launch
