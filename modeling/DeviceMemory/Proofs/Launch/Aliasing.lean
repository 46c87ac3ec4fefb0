-- SUMMARY: Launches on ranges that overlap read what every operand held before, and change the destination only.
import DeviceMemory.Proofs.Launch.Balance
import DeviceMemory.Proofs.Launch.Operands
import DeviceMemory.Proofs.Launch.Sequential

/-!
# Aliased launches

The operands of a launch may be ranges of one allocation, nested or overlapping.
An operand that shares the allocation of the destination is read from a snapshot,
so a launch has one result, whatever overlaps what: that of the loop over what all
operands held before. It is written into the range of the destination. The rest of
that allocation and all others stay as they are, and snapshots leave nothing
behind.
-/

namespace DeviceMemory

open DeviceMemory.Action

/-! ## Loops on parts of the operands -/

namespace Launch

variable {t : ScalarType} {block count : Nat} {source destination : List (Scalar t)}

/-- A loop reads its source where its items say. -/
theorem addBlocks_congr {target target' origin origin' : Nat → Nat} {source' : List (Scalar t)}
    (htarget : ∀ i < count, target i = target' i)
    (hsource : ∀ i < count, ∀ k < block, source[origin i + k]? = source'[origin' i + k]?) :
    addBlocks block count target origin source destination =
      addBlocks block count target' origin' source' destination := by
  refine List.foldl_ext _ _ _ fun values i hi => ?_
  have hlt : i < count := List.mem_range.mp hi
  rw [htarget i hlt]
  refine List.foldl_ext _ _ _ fun values k hk => ?_
  rw [List.getD_eq_getElem?_getD, List.getD_eq_getElem?_getD,
    hsource i hlt k (List.mem_range.mp hk)]

theorem take_addBlock (m target origin : Nat) (source destination : List (Scalar t)) :
    (addBlock block target origin source destination).take m =
      addBlock block target origin source (destination.take m) :=
  (List.foldl_hom (List.take m) fun values k =>
    (List.take_modify (Scalar.add · (source.getD (origin + k) (Scalar.zero t))) (target + k) m
      values).symm).symm

theorem take_addBlocks (m : Nat) (target origin : Nat → Nat)
    (source destination : List (Scalar t)) :
    (addBlocks block count target origin source destination).take m =
      addBlocks block count target origin source (destination.take m) :=
  (List.foldl_hom (List.take m) fun values i =>
    (take_addBlock m (target i) (origin i) source values).symm).symm

/-- A loop whose blocks come first leaves the rest. -/
theorem addBlocks_take_append_drop {m : Nat} {target : Nat → Nat} (origin : Nat → Nat)
    (hinside : ∀ i < count, target i + block ≤ m) :
    addBlocks block count target origin source (destination.take m) ++ destination.drop m =
      addBlocks block count target origin source destination := by
  have hdrop : (addBlocks block count target origin source destination).drop m =
      destination.drop m := by
    refine List.ext_getElem? fun q => ?_
    rw [List.getElem?_drop, List.getElem?_drop]
    refine getElem?_addBlocks source destination fun i hi => .inr ?_
    exact Nat.le_trans (hinside i hi) (Nat.le_add_right m q)
  rw [← take_addBlocks, ← hdrop, List.take_append_drop]

theorem indexAt_take {n i : Nat} (indices : List (Scalar .int32)) (hi : i < n) :
    indexAt (indices.take n) i = indexAt indices i := by
  rw [indexAt, indexAt, List.getD_eq_getElem?_getD, List.getElem?_take_of_lt hi,
    ← List.getD_eq_getElem?_getD]

/-- `n` indices and `n` blocks make `n` items. -/
theorem min_take {α β : Type} {n : Nat} {xs : List α} {ys : List β} (hblock : 1 ≤ block)
    (hxs : n ≤ xs.length) (hys : n * block ≤ ys.length) :
    min (xs.take n).length ((ys.take (n * block)).length / block) = n := by
  rw [List.length_take_of_le hxs, List.length_take_of_le hys, Nat.mul_div_cancel _ hblock,
    Nat.min_self]

/-- The first items of a scatter see the first indices and the first blocks of the source. -/
theorem scatterLoop_take {n : Nat} (indices : List (Scalar .int32)) :
    scatterLoop block n destination (indices.take n) (source.take (n * block)) =
      scatterLoop block n destination indices source := by
  refine addBlocks_congr (fun i hi => ?_) fun i hi k hk => ?_
  · rw [indexAt_take indices hi]
  · have hle : (i + 1) * block ≤ n * block := Nat.mul_le_mul_right block hi
    rw [Nat.succ_mul] at hle
    exact List.getElem?_take_of_lt (by omega)

/-- The first items of a gather see the first indices and change the first blocks of the
    destination. -/
theorem gatherLoop_take {n : Nat} (indices : List (Scalar .int32)) :
    gatherLoop block n (destination.take (n * block)) (indices.take n) source ++
        destination.drop (n * block) =
      gatherLoop block n destination indices source := by
  have hindices : gatherLoop block n (destination.take (n * block)) (indices.take n) source =
      gatherLoop block n (destination.take (n * block)) indices source :=
    addBlocks_congr (fun _ _ => rfl) fun i hi k _ => by rw [indexAt_take indices hi]
  rw [hindices]
  refine addBlocks_take_append_drop _ fun i hi => ?_
  rw [← Nat.succ_mul]
  exact Nat.mul_le_mul_right block hi

end Launch

/-! ## What a launch computes -/

namespace Direction

variable {t : ScalarType}

/-- The loop over `n` items. -/
def loop (d : Direction) (n block : Nat) (destination : List (Scalar t))
    (indices : List (Scalar .int32)) (source : List (Scalar t)) : List (Scalar t) :=
  match d with
  | .scatter => Launch.scatterLoop block n destination indices source
  | .gather => Launch.gatherLoop block n destination indices source

end Direction

namespace Kernel

open Launch

variable {d : Direction} {t : ScalarType} {g : Grid} {n block : Nat}
  {old values : List (Scalar t)} {positions : List (Scalar .int32)}

/-- A launch whose first indices all address a block does what the loop does. -/
theorem accumulate_of_all (hthreads : 1 ≤ g.threadsPerBlock) (hblock : 1 ≤ block)
    (hspan : g.threadsPerBlock * block < Word.limit) (hindices : n ≤ positions.length)
    (hblocks : n * block ≤ (d.itemized old values).length)
    (hall : ∀ i < n, Addresses (indexAt positions i) block (d.addressed old values).length) :
    accumulate d g n block old positions values = ⟨d.loop n block old positions values, true⟩ := by
  cases d with
  | scatter =>
    have hcount : scatterCount block (positions.take n) (values.take (n * block)) = n :=
      min_take hblock hindices hblocks
    change scatter g block old (positions.take n) (values.take (n * block)) = _
    rw [scatter_of_all hthreads hblock hspan, hcount, scatterLoop_take]
    · rfl
    · intro i hi
      rw [hcount] at hi
      rw [indexAt_take positions hi]
      exact hall i hi
  | gather =>
    have hcount : gatherCount block (old.take (n * block)) (positions.take n) = n :=
      min_take hblock hindices hblocks
    change (⟨(gather g block (old.take (n * block)) (positions.take n) values).values ++
      old.drop (n * block), (gather g block (old.take (n * block)) (positions.take n)
        values).finished⟩ : Progress t) = _
    rw [gather_of_all hthreads hblock hspan, hcount, gatherLoop_take]
    · rfl
    · intro i hi
      rw [hcount] at hi
      rw [indexAt_take positions hi]
      exact hall i hi

/-- A launch runs all items unless one of the first indices addresses no block. -/
theorem finished_accumulate_iff (hthreads : 1 ≤ g.threadsPerBlock) (hblock : 1 ≤ block)
    (hspan : g.threadsPerBlock * block < Word.limit) (hindices : n ≤ positions.length)
    (hblocks : n * block ≤ (d.itemized old values).length) :
    (accumulate d g n block old positions values).finished = true ↔
      ∀ i < n, Addresses (indexAt positions i) block (d.addressed old values).length := by
  constructor
  · -- otherwise the first index that addresses no block would have stopped it
    intro hfinished
    by_contra hnot
    obtain ⟨j, hj, hbefore, hstop⟩ := exists_first hnot
    have hindex (i : Nat) (hi : i ≤ j) : indexAt (positions.take n) i = indexAt positions i :=
      indexAt_take positions (Nat.lt_of_le_of_lt hi hj)
    have hbefore' (i : Nat) (hi : i < j) :
        Addresses (indexAt (positions.take n) i) block (d.addressed old values).length := by
      rw [hindex i (Nat.le_of_lt hi)]
      exact hbefore i hi
    rw [← hindex j (Nat.le_refl j)] at hstop
    cases d with
    | scatter =>
      have hcount : scatterCount block (positions.take n) (values.take (n * block)) = n :=
        min_take hblock hindices hblocks
      have hstopped : scatter g block old (positions.take n) (values.take (n * block)) = _ :=
        scatter_of_first hthreads hblock hspan (hj.trans_eq hcount.symm) hbefore' hstop
      rw [accumulate, hstopped] at hfinished
      cases hfinished
    | gather =>
      have hcount : gatherCount block (old.take (n * block)) (positions.take n) = n :=
        min_take hblock hindices hblocks
      have hstopped : gather g block (old.take (n * block)) (positions.take n) values = _ :=
        gather_of_first hthreads hblock hspan (hj.trans_eq hcount.symm) hbefore' hstop
      simp only [accumulate, hstopped] at hfinished
      cases hfinished
  · intro hall
    rw [accumulate_of_all hthreads hblock hspan hindices hblocks hall]

/-! ## Snapshots -/

variable {s : Store} {destination indices source : Buffer}

/-- The requests for snapshots of the operands that share the allocation of the
    destination. -/
def snapshots (destination : Buffer) (operands : List Buffer) (s : Store) :
    List (AllocatorId × Nat) :=
  (operands.filter (·.shares destination)).map fun b => (b.allocator s, b.size)

/-- Snapshots of whole scalars are as large as their operands. -/
theorem snapshotRequests_of_whole {operands : List Buffer}
    (hwhole : ∀ b ∈ operands, ¬b.Ragged) :
    snapshotRequests destination operands s = snapshots destination operands s := by
  induction operands with
  | nil => rfl
  | cons b operands ih =>
    have hb : ¬b.Ragged := hwhole b List.mem_cons_self
    rw [snapshotRequests, ih fun b hb => hwhole b (List.mem_cons_of_mem _ hb), if_neg hb,
      Buffer.wholeSize_eq hb]
    split
    next hshares => simp [snapshots, Buffer.shares, hshares]
    next hapart => simp [snapshots, Buffer.shares, hapart]

/-! ## Launches -/

/-- What an accumulating launch needs of its operands to read them, and of their allocators
    to make snapshots. -/
structure Launchable (d : Direction) (t : ScalarType) (destination indices source : Buffer)
    (n block : Nat) (g : Grid) (s : Store) : Prop where
  items_pos : 1 ≤ n
  block_pos : 1 ≤ block
  threads_pos : 1 ≤ g.threadsPerBlock
  product_lt : n * block < Word.limit
  span_lt : g.threadsPerBlock * block < Word.limit
  destination_readable : destination.Readable t s
  indices_readable : indices.Readable .int32 s
  source_readable : source.Readable t s
  indexed : n ≤ indices.numel
  itemized : n * block ≤ (d.itemized destination source).numel
  snapshots_granted : s.grants (snapshots destination [source, indices] s) = true

variable {ready : Store}

theorem Launchable.accepted (h : Launchable d t destination indices source n block g ready) :
    Accepted d t destination indices source n block :=
  ⟨h.block_pos, h.destination_readable.laidOut.dtype, h.source_readable.laidOut.dtype,
    h.indices_readable.laidOut.dtype, h.indexed, h.product_lt, h.itemized⟩

theorem Launchable.served (h : Launchable d t destination indices source n block g s) :
    Served destination indices source s := by
  refine ⟨h.destination_readable.inside, h.indices_readable.inside, h.source_readable.inside, ?_⟩
  rw [snapshotRequests_of_whole]
  · exact h.snapshots_granted
  · have hsource := h.source_readable.laidOut.not_misplaced
    have hindices := h.indices_readable.laidOut.not_misplaced
    simpa using ⟨fun hragged => hsource (.inr hragged), fun hragged => hindices (.inr hragged)⟩

theorem Launchable.fault?_eq_none (h : Launchable d t destination indices source n block g s)
    {g' : Grid} (hthreads : 1 ≤ g'.threadsPerBlock) :
    fault? destination indices source g' = none := by
  refine fault?_eq_none_iff.mpr ⟨?_, Nat.ne_of_gt hthreads, ?_⟩
  · exact not_or.mpr ⟨fun hover => h.source_readable.laidOut.not_misplaced (.inr hover.2),
      fun hover => h.indices_readable.laidOut.not_misplaced (.inr hover.2)⟩
  · exact not_or.mpr ⟨h.destination_readable.laidOut.not_misplaced,
      not_or.mpr ⟨fun hread => h.indices_readable.laidOut.not_misplaced hread.2,
        fun hread => h.source_readable.laidOut.not_misplaced hread.2⟩⟩

/-- A launch ends as its operands and its grid say, and has written its result into the
    destination. Whatever overlaps, the operands that count are those from before it. -/
theorem Launchable.exec_launch_on (h : Launchable d t destination indices source n block g ready)
    (hready : exec (do destination.acquire; source.acquire; indices.acquire) s = (.ok (), ready))
    {g' : Grid} (hthreads : 1 ≤ g'.threadsPerBlock) :
    ∃ s', exec (launch d t destination indices source n block g') s =
        (outcome (result d t destination indices source n block g' ready), s') ∧
      destination.Overwritten
        (Scalar.encodeAll (result d t destination indices source n block g' ready).values)
        ready s' := by
  obtain ⟨s', hexec, hwritten⟩ :=
    h.accepted.endsAs_launchReady (g := g') h.served
  rw [h.fault?_eq_none hthreads] at hexec hwritten
  exact ⟨s', (h.accepted.exec_launch_ready h.items_pos hready).trans hexec, hwritten⟩

theorem Launchable.exec_launch (h : Launchable d t destination indices source n block g ready)
    (hready : exec (do destination.acquire; source.acquire; indices.acquire) s = (.ok (), ready)) :
    ∃ s', exec (launch d t destination indices source n block g) s =
        (outcome (result d t destination indices source n block g ready), s') ∧
      destination.Overwritten
        (Scalar.encodeAll (result d t destination indices source n block g ready).values)
        ready s' :=
  h.exec_launch_on hready h.threads_pos

/-- A launch whose indices all address a block has the loop as its result. -/
theorem Launchable.result_eq (h : Launchable d t destination indices source n block g s)
    (hall : ∀ i < n, Addresses (indexAt (indices.values .int32 s) i) block
      (d.addressed destination source).numel) :
    result d t destination indices source n block g s =
      ⟨d.loop n block (destination.values t s) (indices.values .int32 s) (source.values t s),
        true⟩ := by
  refine accumulate_of_all h.threads_pos h.block_pos h.span_lt ?_ ?_ ?_
  · rw [h.indices_readable.length_values]
    exact h.indexed
  · rw [length_itemized h.destination_readable.backed h.accepted.destination_dtype
      h.source_readable.backed h.accepted.source_dtype]
    exact h.itemized
  · rw [length_addressed h.destination_readable.backed h.accepted.destination_dtype
      h.source_readable.backed h.accepted.source_dtype]
    exact hall

/-- Operands that have memory are ready, and memory on first use is no other memory. -/
theorem block?_of_acquire
    (hready : exec (do destination.acquire; source.acquire; indices.acquire) s = (.ok (), ready)) :
    (∀ id block, s.block? id = some block → ready.block? id = some block) ∧
      (destination.isAllocated s → source.isAllocated s → indices.isAllocated s → ready = s) := by
  obtain ⟨_, s₁, hdestination, hlater⟩ := exists_of_exec_bind hready
  obtain ⟨_, s₂, hsource, hindices⟩ := exists_of_exec_bind hlater
  refine ⟨fun id block hblock => ?_, fun hdestination hsource hindices => ?_⟩
  · exact Store.block?_allocate hindices
      (Store.block?_allocate hsource (Store.block?_allocate hdestination hblock))
  · obtain ⟨_, hdestination⟩ := Option.isSome_iff_exists.mp hdestination
    obtain ⟨_, hsource⟩ := Option.isSome_iff_exists.mp hsource
    obtain ⟨_, hindices⟩ := Option.isSome_iff_exists.mp hindices
    rw [exec_bind_of_ok (Buffer.exec_acquire hdestination),
      exec_bind_of_ok (Buffer.exec_acquire hsource), Buffer.exec_acquire hindices] at hready
    cases hready
    rfl

/-- A launch on ranges of any allocations, overlapping in any way, leaves in the destination
    what the loop makes of what all operands held before it, once they have memory. The
    other bytes of the destination's allocation and all other allocations stay as they
    are, and snapshots are returned. -/
theorem launch_reads_past (h : Launchable d t destination indices source n block g ready)
    (hready : exec (do destination.acquire; source.acquire; indices.acquire) s = (.ok (), ready))
    (hall : ∀ i < n, Addresses (indexAt (indices.values .int32 ready) i) block
      (d.addressed destination source).numel) :
    (∀ id block, s.block? id = some block → ready.block? id = some block) ∧
      (destination.isAllocated s → source.isAllocated s → indices.isAllocated s → ready = s) ∧
      ∃ s', exec (launch d t destination indices source n block g) s = (.ok (), s') ∧
        destination.values t s' =
          d.loop n block (destination.values t ready) (indices.values .int32 ready)
            (source.values t ready) ∧
        (∀ q, q < destination.offset ∨ destination.offset + destination.size ≤ q →
          (s'.bytes destination.allocation)[q]? = (ready.bytes destination.allocation)[q]?) ∧
        (∀ id, id ≠ destination.allocation → s'.block? id = ready.block? id) ∧
        (∀ id, s'.handles id = ready.handles id) ∧
        ∀ held, s.Balanced held → destination.allocation ∈ held.handles →
          indices.allocation ∈ held.handles → source.allocation ∈ held.handles →
            s'.Balanced held := by
  obtain ⟨hkept, hsame⟩ := block?_of_acquire hready
  obtain ⟨s', hexec, hwritten⟩ := h.exec_launch hready
  have hlength := length_encodeAll_result d indices source n block g
    h.destination_readable.backed h.destination_readable.laidOut
  have hresult := h.result_eq hall
  rw [hresult] at hexec hwritten hlength
  refine ⟨hkept, hsame, s', hexec, ?_, ?_, ?_, ?_, ?_⟩
  · rw [Buffer.values, hwritten.bytes_eq h.destination_readable.backed hlength,
      Scalar.decodeAll_encodeAll]
  · intro q hq
    exact hwritten.getElem?_bytes h.destination_readable.backed hlength hq
  · intro id hid
    exact hwritten.block?_of_ne hid
  · exact hwritten.handles
  · intro held hbalanced hdestination hindices hsource
    exact of_exec_triple (triple_launch d t n block g hdestination hindices hsource) hbalanced
      hexec

/-- A store with one allocation, of six integers. -/
def sixIntegers : Store :=
  let fill : Action DeviceError Unit := do
    let all ← Buffer.allocate 0 .int32 [6] false
    all.write (Scalar.encodeAll (t := .int32) [10, 20, 30, 0, 1, 5])
  (exec fill ⟨[Stack.new .host [.recycling 1, .metered]], [], [], [], false⟩).2

/-- The destination is the first half, and the source overlaps it and the indices. -/
theorem launch_reads_past_sixIntegers :
    ∃ s', exec (launch .scatter .int32 ⟨0, 0, 12, .int32, [3]⟩ ⟨0, 12, 8, .int32, [2]⟩
        ⟨0, 4, 12, .int32, [3]⟩ 2 1 ⟨1⟩) sixIntegers = (.ok (), s') ∧
      Buffer.values .int32 ⟨0, 0, 12, .int32, [3]⟩ s' = [30, 50, 30] := by
  have hready : exec (do
      Buffer.acquire ⟨0, 0, 12, .int32, [3]⟩
      Buffer.acquire ⟨0, 4, 12, .int32, [3]⟩
      Buffer.acquire ⟨0, 12, 8, .int32, [2]⟩) sixIntegers = (.ok (), sixIntegers) := rfl
  have hlaunchable : Launchable .scatter .int32 ⟨0, 0, 12, .int32, [3]⟩
      ⟨0, 12, 8, .int32, [2]⟩ ⟨0, 4, 12, .int32, [3]⟩ 2 1 ⟨1⟩ sixIntegers := by
    refine ⟨by decide, by decide, by decide, by decide, by decide, ?_, ?_, ?_, by decide,
      by decide, by decide⟩
    · exact ⟨⟨_, rfl, by decide, by decide⟩, ⟨rfl, rfl, rfl⟩⟩
    · exact ⟨⟨_, rfl, by decide, by decide⟩, ⟨rfl, rfl, rfl⟩⟩
    · exact ⟨⟨_, rfl, by decide, by decide⟩, ⟨rfl, rfl, rfl⟩⟩
  obtain ⟨-, -, s', hexec, hvalues, -⟩ :=
    launch_reads_past hlaunchable hready (by decide)
  exact ⟨s', hexec, hvalues.trans (by decide)⟩

end Kernel

end DeviceMemory
