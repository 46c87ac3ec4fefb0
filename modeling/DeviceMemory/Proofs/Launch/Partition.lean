-- SUMMARY: Splitting two lists into the blocks of a grid and pairing them block by block is pairing them as a whole.
import DeviceMemory.Launch.Grid

/-!
# Partitions

A launch splits its indices into runs of `threads` and its scalars into runs of
`threads * block`, pairs the runs, and pairs the entries of each run with the
whole blocks of the other. The result does not depend on `threads`: it is the
pairing of all indices with all whole blocks (`flatten_zipWith_chunks`).
-/

namespace DeviceMemory

variable {α β γ : Type} {width : Nat}

/-! ## Runs -/

theorem takeChunks_add (width a b : Nat) (xs : List α) :
    takeChunks width (a + b) xs =
      takeChunks width a xs ++ takeChunks width b (xs.drop (a * width)) := by
  induction a generalizing xs with
  | zero => simp [takeChunks]
  | succ a ih =>
    rw [Nat.succ_add, takeChunks, takeChunks, ih, List.drop_drop, List.cons_append, Nat.succ_mul,
      Nat.add_comm width]

/-- Runs do not see what comes after them. -/
theorem takeChunks_take (width count : Nat) {length : Nat} (xs : List α)
    (hlength : count * width ≤ length) :
    takeChunks width count (xs.take length) = takeChunks width count xs := by
  induction count generalizing xs length with
  | zero => rfl
  | succ count ih =>
    rw [Nat.succ_mul] at hlength
    have hwidth : min width length = width := Nat.min_eq_left (by omega)
    rw [takeChunks, takeChunks, List.take_take, hwidth, List.drop_take, ih _ (by omega)]

theorem takeChunks_eq_map (width count : Nat) (xs : List α) :
    takeChunks width count xs =
      (List.range count).map fun i => (xs.drop (i * width)).take width := by
  induction count generalizing xs with
  | zero => rfl
  | succ count ih =>
    rw [takeChunks, ih, List.range_succ_eq_map, List.map_cons, List.map_map, Nat.zero_mul,
      List.drop_zero]
    refine congrArg (xs.take width :: ·) (List.map_congr_left fun i _ => ?_)
    rw [Function.comp_apply, List.drop_drop, Nat.succ_mul, Nat.add_comm width]

@[simp] theorem chunks_nil (width : Nat) : chunks width ([] : List α) = [] := by
  simp [chunks, Word.ceilDiv, takeChunks]

@[simp] theorem wholeChunks_nil (width : Nat) : wholeChunks width ([] : List α) = [] := by
  simp [wholeChunks, takeChunks]

theorem ceilDiv_of_pos {n : Nat} (hwidth : 0 < width) (hn : 0 < n) :
    Word.ceilDiv n width = Word.ceilDiv (n - width) width + 1 := by
  rcases Nat.lt_or_ge n width with hlt | hle
  · rw [Nat.sub_eq_zero_of_le (Nat.le_of_lt hlt)]
    simp [Word.ceilDiv, Nat.div_eq_of_lt hlt, Nat.mod_eq_of_lt hlt, Nat.ne_of_gt hn]
  · have hdiv : n / width = (n - width) / width + 1 := Nat.div_eq_sub_div hwidth hle
    have hmod : n % width = (n - width) % width := Nat.mod_eq_sub_mod hle
    rw [Word.ceilDiv, Word.ceilDiv, hdiv, hmod]
    omega

theorem chunks_of_ne_nil (hwidth : 0 < width) {xs : List α} (hxs : xs ≠ []) :
    chunks width xs = xs.take width :: chunks width (xs.drop width) := by
  have hlength : 0 < xs.length := List.length_pos_iff.mpr hxs
  rw [chunks, ceilDiv_of_pos hwidth hlength, takeChunks, chunks, List.length_drop]

/-- The whole runs of a list are those of a first part of whole runs and those of the rest. -/
theorem wholeChunks_split (hwidth : 0 < width) (count : Nat) (xs : List α) :
    wholeChunks width xs =
      wholeChunks width (xs.take (count * width)) ++ wholeChunks width (xs.drop (count * width)) := by
  rcases Nat.lt_or_ge xs.length (count * width) with hlt | hle
  · rw [List.take_of_length_le (Nat.le_of_lt hlt), List.drop_of_length_le (Nat.le_of_lt hlt),
      wholeChunks_nil, List.append_nil]
  · have hcount : count ≤ xs.length / width := (Nat.le_div_iff_mul_le hwidth).mpr hle
    have hrest : (xs.length - count * width) / width = xs.length / width - count := by
      rw [Nat.mul_comm, Nat.sub_mul_div]
    have hsum : xs.length / width = count + (xs.length / width - count) := by omega
    rw [wholeChunks, wholeChunks, wholeChunks, List.length_take, List.length_drop,
      Nat.min_eq_left hle, Nat.mul_div_cancel count hwidth, hrest, takeChunks_take _ _ _ (Nat.le_refl _),
      ← takeChunks_add, ← hsum]

theorem wholeChunks_length (width : Nat) (xs : List α) :
    (wholeChunks width xs).length = xs.length / width :=
  takeChunks_length ..

/-! ## Pairing -/

theorem zipWith_append_right (f : α → β → γ) (xs : List α) (first rest : List β) :
    List.zipWith f xs (first ++ rest) =
      List.zipWith f (xs.take first.length) first ++
        List.zipWith f (xs.drop first.length) rest := by
  induction first generalizing xs with
  | nil => simp
  | cons y first ih =>
    cases xs with
    | nil => simp
    | cons x xs => simpa using ih xs

theorem zipWith_take_left (f : α → β → γ) {count : Nat} (xs : List α) (ys : List β)
    (hcount : ys.length ≤ count) : List.zipWith f (xs.take count) ys = List.zipWith f xs ys := by
  induction ys generalizing xs count with
  | nil => simp
  | cons y ys ih =>
    cases xs with
    | nil => simp
    | cons x xs =>
      cases count with
      | zero => cases hcount
      | succ count => simpa using ih xs (Nat.le_of_succ_le_succ hcount)

/-- The first run of indices is paired with the whole blocks in the first run of scalars,
    and the other indices with the others. -/
theorem zipWith_wholeChunks_split {threads : Nat} (f : α → List β → γ) (hwidth : 0 < width)
    (xs : List α) (ys : List β) :
    List.zipWith f xs (wholeChunks width ys) =
      List.zipWith f (xs.take threads) (wholeChunks width (ys.take (threads * width))) ++
        List.zipWith f (xs.drop threads) (wholeChunks width (ys.drop (threads * width))) := by
  rw [wholeChunks_split hwidth threads ys, zipWith_append_right]
  have hlength : (wholeChunks width (ys.take (threads * width))).length =
      min (threads * width) ys.length / width := by
    rw [wholeChunks_length, List.length_take]
  rcases Nat.lt_or_ge ys.length (threads * width) with hlt | hle
  · -- the last run of scalars: nothing is left for later runs of indices
    have hfew : min (threads * width) ys.length / width ≤ threads := by
      rw [Nat.min_eq_right (Nat.le_of_lt hlt)]
      exact Nat.le_of_lt ((Nat.div_lt_iff_lt_mul hwidth).mpr hlt)
    rw [List.drop_of_length_le (Nat.le_of_lt hlt), wholeChunks_nil, List.zipWith_nil_right,
      List.zipWith_nil_right, zipWith_take_left f _ _ (Nat.le_refl _),
      zipWith_take_left f _ _ (hlength ▸ hfew)]
  · rw [hlength, Nat.min_eq_left hle, Nat.mul_div_cancel threads hwidth]

/-- What is paired does not depend on the number of threads. -/
theorem flatten_zipWith_chunks {threads : Nat} (f : α → List β → γ) (hthreads : 0 < threads)
    (hwidth : 0 < width) (xs : List α) (ys : List β) :
    (List.zipWith (fun lane run => List.zipWith f lane (wholeChunks width run))
        (chunks threads xs) (chunks (threads * width) ys)).flatten =
      List.zipWith f xs (wholeChunks width ys) := by
  induction hlength : xs.length using Nat.strongRecOn generalizing xs ys with
  | ind length ih =>
    by_cases hxs : xs = []
    · simp [hxs]
    by_cases hys : ys = []
    · simp [hys]
    have hshorter : (xs.drop threads).length < length := by
      have hpos : 0 < xs.length := List.length_pos_iff.mpr hxs
      rw [List.length_drop]
      omega
    rw [chunks_of_ne_nil hthreads hxs, chunks_of_ne_nil (Nat.mul_pos hthreads hwidth) hys,
      List.zipWith_cons_cons, List.flatten_cons, ih _ hshorter _ _ rfl,
      ← zipWith_wholeChunks_split f hwidth]

end DeviceMemory
