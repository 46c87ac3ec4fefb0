-- SUMMARY: Reductions of integers in memory and in arrays of a session, the same on every grid.
import DeviceMemory.Proofs.Array.Gathering
import DeviceMemory.Proofs.Launch.Reductions
import DeviceMemory.Proofs.Launch.Success
import DeviceMemory.Proofs.Session.Handles

/-!
# Reductions in memory

A reduction reads the scalars of its operand and leaves them. Those of integers come to
a number in which the grid does not occur (`Reduction.exact`): the sum in two's complement,
or the largest one. So buffers and arrays of a session reduce to the same scalar on every
grid, and on every device that combines the results of its blocks as it likes.
-/

namespace DeviceMemory

open DeviceMemory.Action

variable {t : ScalarType} {e : ElementShape} {r : Reduction} {g : Grid} {s s' : Store}

/-! ## Operands -/

/-- A reduction of integers that have memory is their fold. -/
theorem Kernel.exec_launchReduction_of_integer (ht : t = .int32 ∨ t = .int64) {source : Buffer}
    (hacquire : exec source.acquire s = (.ok (), s')) (hbacked : source.Backed s')
    (hlaid : source.LaidOut t) (hthreads : 1 ≤ g.threadsPerBlock) :
    exec (launchReduction r t source g) s = (.ok (r.fold (source.values t s')), s') := by
  rw [exec_launchReduction_of_acquire hacquire hbacked hlaid hthreads,
    (Reduction.lawful_of_integer ht r).fold_map_fold_chunks hthreads]

/-- An array of integers reduces to the fold of all of its memory. -/
theorem BlockArray.Spans.exec_reduce_of_integer (ht : t = .int32 ∨ t = .int64)
    {a : BlockArray t e} {A : AllocationId} {block : Block} (ha : a.Spans A block)
    (hblock : s.block? A = some block) (hthreads : 1 ≤ a.grid.threadsPerBlock) :
    exec (a.reduce r) s =
      (.ok (r.fold ((Buffer.whole A block.size t a.shape).values t s)), s) := by
  have hreadable := ha.readable hblock
  rw [reduce, exec_bind_of_ok ha.exec_memory, exec_mapError_eq_ok_iff]
  exact Kernel.exec_launchReduction_of_integer ht hreadable.backed.exec_acquire hreadable.backed
    hreadable.laidOut hthreads

theorem BlockArray.Spans.withGrid {a : BlockArray t e} {A : AllocationId} {block : Block}
    (ha : a.Spans A block) (g : Grid) : (a.withGrid g).Spans A block := ⟨ha.buffer, ha.byteSize⟩

/-! ## Sessions -/

namespace Session

/-- Integers reduce to the same scalar on every grid and in every combination of what the blocks
    of the grid come to: the one that is their sum in two's complement, or the largest of them.
    So does every buffer of a session whose range holds whole, aligned integers, once it has
    memory, and every array that has memory, on every grid. -/
theorem reductions_exact (ht : t = .int32 ∨ t = .int64) (r : Reduction) :
    (∀ values : List (Scalar t), ∃ result, result.toInt = r.exact values ∧
      ∀ g : Grid, 1 ≤ g.threadsPerBlock → r.launch? g values = some result ∧
        ∀ combination : Combination t,
          combination.leaves.Perm ((chunks g.threadsPerBlock values).map r.fold) →
          combination.eval r = result) ∧
    (∀ {s : Session}, s.Reachable → ∀ {b : Buffer}, s.Handle b → b.LaidOut t →
      ∀ {ready}, exec b.acquire s.store = (.ok (), ready) →
      ∃ result, result.toInt = r.exact (b.values t ready) ∧
        ∀ g : Grid, 1 ≤ g.threadsPerBlock →
          exec (Kernel.launchReduction r t b g) s.store = (.ok result, ready)) ∧
    (∀ {s : Session}, s.Reachable → ∀ {name e} {a : BlockArray t e} {b : Buffer},
      s.arrays.lookup name = some ⟨t, e, a⟩ → a.buffer = some b →
      ∃ result, result.toInt = r.exact (b.values t s.store) ∧
        ∀ g : Grid, 1 ≤ g.threadsPerBlock →
          exec ((a.withGrid g).reduce r) s.store = (.ok result, s.store)) := by
  have hexact := Reduction.toInt_fold_of_integer ht r
  refine ⟨fun values => ⟨r.fold values, hexact values, fun g hthreads => ⟨?_, ?_⟩⟩, ?_, ?_⟩
  · exact Reduction.launch?_of_integer ht hthreads r values
  · exact fun _ hleaves => (Reduction.lawful_of_integer ht r).eval_chunks hthreads hleaves
  · intro s hs b hb hlaid ready hacquire
    have hbacked : b.Backed ready := (hs.formed_of_handle hb).backed_of_acquire hs.sound.balanced
      (hb.mem_handles hs.sound) hacquire
    exact ⟨_, hexact _, fun g hthreads =>
      Kernel.exec_launchReduction_of_integer ht hacquire hbacked hlaid hthreads⟩
  · intro s hs name e a b ha hb
    obtain ⟨block, hblock, hspans, hwhole⟩ := hs.spans ha hb
    refine ⟨_, hexact _, fun g hthreads => ?_⟩
    rw [hwhole]
    exact (hspans.withGrid g).exec_reduce_of_integer ht hblock hthreads

/-- The blocks of a grid come to 12 and 3, which are combined from the last one on. The numbers
    7, 5 and 3 of a slot are reduced through a buffer and an array. -/
theorem reductions_exact_overlaidRun :
    (Combination.join (.result 3#32) (.join .identity (.result 12#32)) :
      Combination .int32).eval .sum = 15#32 ∧
    ∀ g : Grid, 1 ≤ g.threadsPerBlock →
      exec (Kernel.launchReduction .sum .int32 ⟨0, 0, 16, .int32, [4, 1, 1, 1]⟩ g)
          (empty.after overlaidRun).store = (.ok 15#32, (empty.after overlaidRun).store) ∧
      exec ((overlaidNumbers.withGrid g).reduce .maximum) (empty.after overlaidRun).store =
        (.ok 7#32, (empty.after overlaidRun).store) := by
  have hreachable : (empty.after overlaidRun).Reachable := Reachable.empty.after rfl
  have hnumbers : (empty.after overlaidRun).arrays.lookup "numbers" =
      some ⟨.int32, .scalar, overlaidNumbers⟩ := rfl
  have hsum : ∀ result : Scalar .int32,
      result.toInt = Reduction.sum.exact (t := .int32) [0, 7, 5, 3] → result = 15#32 :=
    fun _ h => BitVec.eq_of_toInt_eq h
  have hmaximum : ∀ result : Scalar .int32,
      result.toInt = Reduction.maximum.exact (t := .int32) [0, 7, 5, 3] → result = 7#32 :=
    fun _ h => BitVec.eq_of_toInt_eq h
  obtain ⟨hvalues, hbuffers, -⟩ := reductions_exact (t := .int32) (.inl rfl) .sum
  obtain ⟨result, hresult, hcombined⟩ := hvalues [0, 7, 5, 3]
  obtain ⟨total, htotal, hbuffer⟩ := hbuffers hreachable (.array hnumbers rfl)
    ⟨rfl, rfl, show 16 % 4 = 0 from rfl⟩ rfl
  obtain ⟨largest, hlargest, harray⟩ :=
    (reductions_exact (t := .int32) (.inl rfl) .maximum).2.2 hreachable hnumbers rfl
  refine ⟨?_, fun g hthreads => ⟨?_, ?_⟩⟩
  · rw [(hcombined ⟨3⟩ (by decide)).2 _ (by decide), hsum result hresult]
  · rw [hbuffer g hthreads, hsum total htotal]
  · rw [harray g hthreads, hmaximum largest hlargest]

end Session

end DeviceMemory
