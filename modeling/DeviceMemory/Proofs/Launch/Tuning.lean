-- SUMMARY: The number of threads of a block does not show in the result of a launch, unless a block of threads spans more scalars than a word counts: then the launch traps.
import DeviceMemory.Proofs.Launch.Aliasing

/-!
# Grids as tuning

A launch that is valid on blocks of one thread is valid on all grids, and gives the
same bytes on each whose blocks span no more scalars than a word counts. On a larger
block the product of threads and scalars overflows, which stops the launch before it
changes anything, although no block ever has more threads to run than there are
items (`Grid.threads`).
-/

namespace DeviceMemory.Kernel

open DeviceMemory.Action Launch

variable {d : Direction} {t : ScalarType} {g : Grid} {n block : Nat}
  {old values : List (Scalar t)} {positions : List (Scalar .int32)} {s ready : Store}
  {destination indices source : Buffer}

theorem threads_ofThreads_pos (threads : Nat) : 1 ≤ (Grid.ofThreads threads).threadsPerBlock :=
  Nat.le_max_right threads 1

/-- A launch that is valid on one grid is valid on all whose blocks span a word at most. -/
theorem Launchable.onGrid (h : Launchable d t destination indices source n block g s) {g' : Grid}
    (hthreads : 1 ≤ g'.threadsPerBlock) (hspan : g'.threadsPerBlock * block < Word.limit) :
    Launchable d t destination indices source n block g' s :=
  { h with threads_pos := hthreads, span_lt := hspan }

/-- Nothing runs on a grid whose blocks span more than a word counts. -/
theorem accumulate_of_limit_le (hspan : Word.limit ≤ g.threadsPerBlock * block) :
    accumulate d g n block old positions values = ⟨old, false⟩ := by
  have hnone : g.span? block = none := by
    rw [Grid.span?, Word.mul?_eq_none_iff.mpr hspan]
  cases d with
  | scatter => rw [accumulate, scatter, hnone]
  | gather => simp only [accumulate, gather, hnone, List.take_append_drop]

/-- A valid launch ends well on a grid, with the same bytes whatever the grid, if the product
    of threads and scalars fits in a word. Where it does not, the launch traps and leaves the
    destination as it was. -/
theorem launch_on_any_grid
    (h : Launchable d t destination indices source n block (Grid.ofThreads 1) ready)
    (hready : exec (do destination.acquire; source.acquire; indices.acquire) s = (.ok (), ready))
    (hall : ∀ i < n, Addresses (indexAt (indices.values .int32 ready) i) block
      (d.addressed destination source).numel) (threads : Nat) :
    (max threads 1 * block < Word.limit →
      ∃ s', exec (launch d t destination indices source n block (Grid.ofThreads threads)) s =
          (.ok (), s') ∧
        destination.bytes s' = Scalar.encodeAll (d.loop n block (destination.values t ready)
          (indices.values .int32 ready) (source.values t ready))) ∧
    (Word.limit ≤ max threads 1 * block →
      ∃ s', exec (launch d t destination indices source n block (Grid.ofThreads threads)) s =
          (.error .trap, s') ∧
        destination.values t s' = destination.values t ready) := by
  have hthreads := threads_ofThreads_pos threads
  have hbacked := h.destination_readable.backed
  obtain ⟨s', hexec, hwritten⟩ := h.exec_launch_on hready hthreads
  have hlength := length_encodeAll_result d indices source n block (Grid.ofThreads threads)
    hbacked h.destination_readable.laidOut
  constructor
  · intro hspan
    rw [(h.onGrid hthreads hspan).result_eq hall] at hexec hwritten hlength
    exact ⟨s', hexec, hwritten.bytes_eq hbacked hlength⟩
  · intro hspan
    rw [result, accumulate_of_limit_le (g := Grid.ofThreads threads) hspan]
      at hexec hwritten hlength
    refine ⟨s', hexec, ?_⟩
    rw [Buffer.values, hwritten.bytes_eq hbacked hlength, Scalar.decodeAll_encodeAll]

/-- One item of two scalars. -/
theorem launchable_pair : Launchable .scatter .int32 ⟨0, 0, 8, .int32, [2]⟩ ⟨0, 12, 4, .int32, [1]⟩
    ⟨0, 16, 8, .int32, [2]⟩ 1 2 (Grid.ofThreads 1) sixIntegers := by
  refine ⟨by decide, by decide, by decide, by decide, by decide, ?_, ?_, ?_, by decide, by decide,
    by decide⟩
  · exact ⟨⟨_, rfl, by decide, by decide⟩, ⟨rfl, rfl, rfl⟩⟩
  · exact ⟨⟨_, rfl, by decide, by decide⟩, ⟨rfl, rfl, rfl⟩⟩
  · exact ⟨⟨_, rfl, by decide, by decide⟩, ⟨rfl, rfl, rfl⟩⟩

theorem launch_on_any_grid_pair :
    ∃ s', exec (launch .scatter .int32 ⟨0, 0, 8, .int32, [2]⟩ ⟨0, 12, 4, .int32, [1]⟩
        ⟨0, 16, 8, .int32, [2]⟩ 1 2 (Grid.ofThreads 300)) sixIntegers = (.ok (), s') ∧
      Buffer.bytes ⟨0, 0, 8, .int32, [2]⟩ s' = Scalar.encodeAll (t := .int32) [11, 25] := by
  have hready : exec (do
      Buffer.acquire ⟨0, 0, 8, .int32, [2]⟩
      Buffer.acquire ⟨0, 16, 8, .int32, [2]⟩
      Buffer.acquire ⟨0, 12, 4, .int32, [1]⟩) sixIntegers = (.ok (), sixIntegers) := rfl
  obtain ⟨s', hexec, hbytes⟩ :=
    (launch_on_any_grid launchable_pair hready (by decide) 300).1 (by decide)
  exact ⟨s', hexec, hbytes.trans (by decide)⟩

/-- The largest number of threads stops a launch that ends well on one thread. -/
theorem launch_traps_on_wide_blocks :
    (∃ s', exec (launch .scatter .int32 ⟨0, 0, 8, .int32, [2]⟩ ⟨0, 12, 4, .int32, [1]⟩
        ⟨0, 16, 8, .int32, [2]⟩ 1 2 (Grid.ofThreads 1)) sixIntegers = (.ok (), s')) ∧
      ∃ s', exec (launch .scatter .int32 ⟨0, 0, 8, .int32, [2]⟩ ⟨0, 12, 4, .int32, [1]⟩
        ⟨0, 16, 8, .int32, [2]⟩ 1 2 (Grid.ofThreads Word.greatest)) sixIntegers =
          (.error .trap, s') := by
  refine ⟨⟨_, rfl⟩, ⟨_, rfl⟩⟩

end DeviceMemory.Kernel
