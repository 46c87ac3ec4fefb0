-- SUMMARY: A gather into an array ends well exactly when its elements lie inside and there is an index for each, and then changes these elements only.
import DeviceMemory.Proofs.Launch.Gathering
import DeviceMemory.Proofs.Session.Representation

/-!
# Gathering into arrays

A gather adds into elements of an array from a given one on. Three checks keep it
inside: the offset must fit in a word, the view of the elements from there on must lie
inside the array, and the launch must find a block for every item. Together they say
that the elements lie inside the array, as natural numbers (`gather_exact`). Where they
do, each has the element of the source added that its index names, as it was before,
whatever the arrays share. Where they do not, the gather fails and nothing is different.
-/

namespace DeviceMemory

open DeviceMemory.Action

/-! ## Elements from one on -/

namespace Launch

variable {t : ScalarType} {start block n : Nat} {indices : List (Scalar .int32)}
  {source old values : List (Scalar t)}

/-- The new scalars are the old ones, with the elements of the source that the first indices name
    added into the elements from `start` on. -/
structure GatheredFrom (start block n : Nat) (indices : List (Scalar .int32))
    (source old new : List (Scalar t)) : Prop where
  added : ∀ i < n, ∀ k < block, ∃ x y, old[(start + i) * block + k]? = some x ∧
    source[(indexAt indices i).toNat * block + k]? = some y ∧
    new[(start + i) * block + k]? = some (Scalar.add x y)
  kept : ∀ q, q < start * block ∨ (start + n) * block ≤ q → new[q]? = old[q]?

theorem gatheredFrom_zero : GatheredFrom start block 0 indices source old old where
  added _ hi := absurd hi (Nat.not_lt_zero _)
  kept _ _ := rfl

/-- Scalars that were gathered behind others. -/
theorem Gathered.gatheredFrom
    (h : Gathered block n indices source (old.drop (start * block)) values)
    (hstart : start * block ≤ old.length) :
    GatheredFrom start block n indices source old (old.take (start * block) ++ values) := by
  have hfront : (old.take (start * block)).length = start * block := List.length_take_of_le hstart
  have hbehind (q : Nat) : (old.take (start * block) ++ values)[start * block + q]? = values[q]? := by
    rw [List.getElem?_append_right (by omega), hfront, Nat.add_sub_cancel_left]
  refine ⟨fun i hi k hk => ?_, fun q hq => ?_⟩
  · obtain ⟨x, y, hx, hy, hnew⟩ := h.added i hi k hk
    rw [List.getElem?_drop] at hx
    rw [Nat.add_mul, Nat.add_assoc, hbehind]
    exact ⟨x, y, hx, hy, hnew⟩
  · rcases hq with hbefore | hafter
    · rw [List.getElem?_append_left (by omega), List.getElem?_take_of_lt hbefore]
    · rw [Nat.add_mul] at hafter
      obtain ⟨r, rfl⟩ := Nat.exists_eq_add_of_le (Nat.le_trans (Nat.le_add_right ..) hafter)
      rw [hbehind, h.kept r (by omega), List.getElem?_drop]

/-- The loop over `n` items behind others gathers `n` elements. -/
theorem gatheredFrom_gatherLoop (hblock : 1 ≤ block) (hindices : n ≤ indices.length)
    (hfits : (start + n) * block ≤ old.length)
    (hall : ∀ i < n, Addresses (indexAt indices i) block source.length) :
    GatheredFrom start block n indices source old
      (old.take (start * block) ++
        gatherLoop block n (old.drop (start * block)) indices source) := by
  rw [Nat.add_mul] at hfits
  have hblocks : n ≤ (old.drop (start * block)).length / block := by
    rw [List.length_drop, Nat.le_div_iff_mul_le hblock]
    omega
  have hgathered := gathered_gatherLoop (le_min hindices hblocks) hall
  exact hgathered.gatheredFrom (Nat.le_trans (Nat.le_add_right ..) hfits)

end Launch

/-- Scalars written over some of a block leave those in front and those behind. -/
theorem Block.decodeAll_overwrite {t : ScalarType} {b : Block} {start count : Nat}
    {bytes : List UInt8} (hlength : bytes.length = count * t.bytes)
    (hfits : (start + count) * t.bytes ≤ b.size) :
    Scalar.decodeAll t (b.overwrite (start * t.bytes) bytes).bytes =
      (Scalar.decodeAll t b.bytes).take start ++ Scalar.decodeAll t bytes ++
        (Scalar.decodeAll t b.bytes).drop (start + count) := by
  have hfront : start * t.bytes ≤ b.bytes.length :=
    Nat.le_trans (Nat.mul_le_mul_right _ (Nat.le_add_right ..)) hfits
  rw [Block.overwrite, hlength, ← Nat.add_mul, List.append_assoc,
    Scalar.decodeAll_append (List.length_take_of_le hfront), Scalar.decodeAll_append hlength,
    (Scalar.decodeAll_take_drop hfront).1, (Scalar.decodeAll_take_drop hfits).2, List.append_assoc]

/-- What a range holds depends on the memory of its allocation only. -/
theorem Buffer.bytes_congr {b : Buffer} {s s' : Store}
    (hsame : s'.block? b.allocation = s.block? b.allocation) : b.bytes s' = b.bytes s := by
  rw [Buffer.bytes, Buffer.bytes, Store.bytes, Store.bytes, hsame]

theorem Buffer.allocator_addHandle (b : Buffer) (A : AllocationId) (s : Store) :
    b.allocator (s.addHandle A) = b.allocator s := by
  rw [Buffer.allocator, Buffer.allocator, Store.addHandle, List.getElem?_modify]
  cases s.allocations[b.allocation]? with
  | none => rfl
  | some a =>
    simp only [Option.map_eq_map, Option.map_some]
    split <;> rfl

/-- A handle that is made before a write and dropped after it makes no difference. -/
theorem Buffer.Overwritten.dropHandle {s s' : Store} {b : Buffer} {A : AllocationId}
    {bytes : List UInt8} (hs : b.Overwritten bytes (s.addHandle A) s') (hA : 0 < s.handles A) :
    b.Overwritten bytes s (s'.dropHandle A) := by
  have hothers : 1 < s'.handles A := by
    rw [hs.handles, Store.handles_addHandle hA, if_pos rfl]
    omega
  obtain ⟨a, ha, -⟩ := Store.exists_of_handles_pos hA
  have hlt : A < s.allocations.length := (List.getElem?_eq_some_iff.mp ha).1
  obtain ⟨retired, hretired, hs⟩ := hs
  refine ⟨retired, hretired, List.ext_getElem? fun id => ?_⟩
  rw [Store.allocations_dropHandle_of_lt hothers, hs, Store.addHandle]
  by_cases hid : A = id
  · -- the write touches no count, so the two changes of it cancel
    subst hid
    rw [List.getElem?_modify_eq, List.getElem?_append_left (by simpa using hlt),
      List.getElem?_append_left (by simpa using hlt), List.getElem?_modify, List.getElem?_modify_eq,
      List.getElem?_modify, ha]
    simp only [Option.map_eq_map, Option.map_some]
    split <;> rfl
  · rw [List.getElem?_modify_ne _ _ hid, List.getElem?_append, List.getElem?_append,
      List.getElem?_modify, List.getElem?_modify_ne _ _ hid, List.getElem?_modify]
    simp only [List.length_modify]

/-- The snapshots that a launch asks for depend on the allocation of its destination only, and not
    on handles. -/
theorem Kernel.snapshots_addHandle {destination : Buffer} {operands : List Buffer}
    {A : AllocationId} {s : Store} :
    snapshots destination operands (s.addHandle A) = snapshots destination operands s := by
  simp only [snapshots, Buffer.allocator_addHandle]

namespace BlockArray

open Launch

variable {t : ScalarType} {e : ElementShape} {a source : BlockArray t e}
  {indices : BlockArray .int32 .scalar} {A I S : AllocationId}
  {block indexBlock sourceBlock : Block} {start n : Nat} {s : Store}

/-! ## Arrays that span memory -/

theorem values_whole {size : Nat} (hblock : s.block? A = some block) (hsize : block.size = size)
    (shape : List Nat) :
    (Buffer.whole A size t shape).values t s = Scalar.decodeAll t block.bytes := by
  subst hsize
  rw [Buffer.values, Buffer.bytes, Buffer.whole, Store.bytes_of_block? hblock, List.drop_zero,
    Block.size, List.take_length]

theorem ElementShape.block_scalar : ElementShape.scalar.block = 1 := rfl

namespace Spans

theorem size_eq_mul (ha : a.Spans A block) : block.size = a.len * e.block * t.bytes := by
  obtain ⟨count, hcount, hsize⟩ := numel?_eq_some ha.byteSize
  rw [← hsize, (Word.mul?_eq_some_iff.mp hcount).2, Nat.mul_comm]

theorem size_lt (ha : a.Spans A block) : block.size < Word.limit := by
  obtain ⟨_, -, hbytes⟩ := Option.bind_eq_some_iff.mp ha.byteSize
  obtain ⟨hlt, hsize⟩ := Word.mul?_eq_some_iff.mp hbytes
  exact hsize ▸ hlt

theorem numel_eq (ha : a.Spans A block) :
    (Buffer.whole A block.size t a.shape).numel = a.len * e.block := by
  rw [Buffer.numel, Buffer.whole, ha.size_eq_mul, Nat.mul_div_cancel _ t.bytes_pos]

theorem readable (ha : a.Spans A block) (hblock : s.block? A = some block) :
    (Buffer.whole A block.size t a.shape).Readable t s where
  inside := ha.inside hblock
  laidOut := ⟨rfl, Nat.zero_mod _, by
    rw [Buffer.whole, ha.size_eq_mul]
    exact Nat.mul_mod_left ..⟩

theorem length_scalars (ha : a.Spans A block) :
    (Scalar.decodeAll t block.bytes).length = a.len * e.block := by
  rw [Scalar.decodeAll_length, ← Block.size, ha.size_eq_mul, Nat.mul_div_cancel _ t.bytes_pos]

end Spans

/-! ## The elements behind an offset -/

/-- The elements of an array from `start` on, in its allocation. -/
def tail (a : BlockArray t e) (A : AllocationId) (start : Nat) : Buffer :=
  ⟨A, start * e.block * t.bytes, (a.len - start) * e.block * t.bytes, t,
    [(a.len - start) * e.block]⟩

namespace Spans

theorem tail_fits (ha : a.Spans A block) (hstart : start ≤ a.len) :
    (a.tail A start).offset + (a.tail A start).size = block.size := by
  rw [tail, ha.size_eq_mul, ← Nat.add_mul, ← Nat.add_mul, Nat.add_sub_cancel' hstart]

theorem numel_tail (a : BlockArray t e) (A : AllocationId) (start : Nat) :
    (a.tail A start).numel = (a.len - start) * e.block :=
  Nat.mul_div_cancel _ t.bytes_pos

theorem exec_view_tail (ha : a.Spans A block) (hstart : start ≤ a.len) (s : Store) :
    exec ((Buffer.whole A block.size t a.shape).view (start * (e.block * t.bytes))
        (block.size - start * (e.block * t.bytes))) s =
      (.ok (a.tail A start), s.addHandle A) := by
  have hfits := ha.tail_fits hstart
  simp only [tail] at hfits
  rw [← Nat.mul_assoc, ← Nat.eq_sub_of_add_eq' hfits, Buffer.exec_view (Nat.le_of_eq hfits)]
  simp only [Buffer.whole, tail, Nat.zero_add, Nat.mul_div_cancel _ t.bytes_pos]

theorem readable_tail (ha : a.Spans A block) (hblock : s.block? A = some block)
    (hstart : start ≤ a.len) : (a.tail A start).Readable t s where
  inside := ⟨block, hblock, Nat.le_of_eq (ha.tail_fits hstart), ha.size_lt⟩
  laidOut := ⟨rfl, Nat.mul_mod_left .., Nat.mul_mod_left ..⟩

/-- What is behind an offset is what comes after the first scalars. -/
theorem values_tail (ha : a.Spans A block) (hblock : s.block? A = some block)
    (hstart : start ≤ a.len) :
    (a.tail A start).values t s =
      (Scalar.decodeAll t block.bytes).drop (start * e.block) := by
  have hfits := ha.tail_fits hstart
  simp only [tail, Block.size] at hfits
  have hbehind : start * e.block * t.bytes ≤ block.bytes.length := hfits ▸ Nat.le_add_right ..
  rw [← (Scalar.decodeAll_take_drop hbehind).2, Buffer.values, Buffer.bytes, tail,
    Store.bytes_of_block? hblock, List.take_of_length_le]
  change (block.bytes.drop (start * e.block * t.bytes)).length ≤ (a.len - start) * e.block * t.bytes
  rw [List.length_drop]
  omega

/-- Scalars written behind an offset leave those in front. -/
theorem values_overwritten (ha : a.Spans A block) (hblock : s.block? A = some block)
    (hstart : start ≤ a.len) {new : List (Scalar t)}
    (hnew : (Scalar.encodeAll new).length = (a.tail A start).size) {s' : Store}
    (hwritten : (a.tail A start).Overwritten (Scalar.encodeAll new) s s') :
    (Buffer.whole A block.size t a.shape).values t s' =
      (Scalar.decodeAll t block.bytes).take (start * e.block) ++ new := by
  have hfits := ha.tail_fits hstart
  have hblock' : s'.block? A =
      some (block.overwrite (start * e.block * t.bytes) (Scalar.encodeAll new)) :=
    hwritten.block? hblock
  have hend : start * e.block + (a.len - start) * e.block = a.len * e.block := by
    rw [← Nat.add_mul, Nat.add_sub_cancel' hstart]
  have hrest : (Scalar.decodeAll t block.bytes).drop (a.len * e.block) = [] :=
    List.drop_eq_nil_of_le (Nat.le_of_eq ha.length_scalars)
  rw [values_whole hblock' (Block.size_overwrite (hnew ▸ Nat.le_of_eq hfits)),
    Block.decodeAll_overwrite hnew (by rw [hend, ha.size_eq_mul]), Scalar.decodeAll_encodeAll,
    hend, hrest, List.append_nil]

end Spans

/-! ## Gathers that are refused -/

section Operands

variable (ha : a.Spans A block) (hindices : indices.Spans I indexBlock)
  (hsource : source.Spans S sourceBlock)

include ha hindices hsource

/-- A gather with items takes the memory of its arrays and goes on. -/
theorem exec_gather (hitems : 1 ≤ n) (helement : e.block * t.bytes < Word.limit) (s : Store) :
    exec (a.gather start indices source n) s =
      exec (match Word.mul? start (e.block * t.bytes) with
        | none => Action.fail (.outOfRange "gather destination" start n a.len)
        | some offset => do
          let tail ← ((Buffer.whole A block.size t a.shape).view offset
            (block.size - offset)).mapError .device
          ((Kernel.launch .gather t tail (.whole I indexBlock.size .int32 indices.shape)
            (.whole S sourceBlock.size t source.shape) n e.block a.grid).mapError
              .device).thenDrop tail.allocation) s := by
  have helement : Word.mul? e.block t.bytes = some (e.block * t.bytes) :=
    Word.mul?_eq_some_iff.mpr ⟨helement, rfl⟩
  rw [gather, if_neg (Nat.ne_of_gt hitems), exec_bind_of_ok hindices.exec_memory,
    exec_bind_of_ok hsource.exec_memory, exec_bind_of_ok ha.exec_memory,
    exec_checked_bind helement]
  rfl

/-- Elements past the end are refused, whether or not their offset fits in a word. -/
theorem exec_gather_of_past (hitems : 1 ≤ n) (helement : e.block * t.bytes < Word.limit)
    (hpast : a.len < start) (s : Store) :
    ∃ cause, exec (a.gather start indices source n) s = (.error (.error cause), s) := by
  rw [exec_gather ha hindices hsource hitems helement]
  rcases hoffset : Word.mul? start (e.block * t.bytes) with _ | offset
  · exact ⟨_, rfl⟩
  · obtain ⟨-, rfl⟩ := Word.mul?_eq_some_iff.mp hoffset
    have hscalars : 0 < e.block * t.bytes := Nat.mul_pos e.nonempty t.bytes_pos
    have hsize : block.size < start * (e.block * t.bytes) := by
      rw [ha.size_eq_mul, Nat.mul_assoc]
      exact Nat.mul_lt_mul_of_pos_right hpast hscalars
    have hview : ¬start * (e.block * t.bytes) + (block.size - start * (e.block * t.bytes)) ≤
        (Buffer.whole A block.size t a.shape).size :=
      Nat.not_le.mpr (Nat.lt_of_lt_of_le hsize (Nat.le_add_right ..))
    exact ⟨_, exec_bind_of_error (exec_mapError_of_error (exec_ensure_bind_of_not hview _ _))⟩

/-- From an element of the array on, a gather is a launch into what comes there. -/
theorem exec_gather_of_le (hitems : 1 ≤ n) (helement : e.block * t.bytes < Word.limit)
    (hstart : start ≤ a.len) {outcome : Except (Fault ArrayError) Unit} {s s' : Store}
    (hlaunch : exec ((Kernel.launch .gather t (a.tail A start)
      (.whole I indexBlock.size .int32 indices.shape) (.whole S sourceBlock.size t source.shape)
      n e.block a.grid).mapError .device) (s.addHandle A) = (outcome, s')) :
    exec (a.gather start indices source n) s = (outcome, s'.dropHandle A) := by
  have hinside : start * (e.block * t.bytes) ≤ block.size := by
    rw [ha.size_eq_mul, ← Nat.mul_assoc]
    exact Nat.mul_le_mul_right _ (Nat.mul_le_mul_right _ hstart)
  have hoffset : Word.mul? start (e.block * t.bytes) = some (start * (e.block * t.bytes)) :=
    Word.mul?_eq_some_iff.mpr ⟨Nat.lt_of_le_of_lt hinside ha.size_lt, rfl⟩
  rw [exec_gather ha hindices hsource hitems helement, hoffset]
  simp only
  rw [exec_bind_of_ok (exec_mapError_eq_ok_iff.mpr (ha.exec_view_tail hstart s))]
  exact exec_thenDrop hlaunch A

/-- Elements that reach past the end, and items without an index, are refused by the launch. -/
theorem exec_gather_of_short (hitems : 1 ≤ n) (helement : e.block * t.bytes < Word.limit)
    (hproduct : n * e.block < Word.limit) (hA : 0 < s.handles A)
    (hshort : a.len < start + n ∨ indices.len < n) :
    ∃ cause, exec (a.gather start indices source n) s = (.error (.error cause), s) := by
  rcases Nat.lt_or_ge a.len start with hpast | hstart
  · exact exec_gather_of_past ha hindices hsource hitems helement hpast s
  obtain ⟨reason, hchecks⟩ : ∃ reason, exec (Kernel.checkOperands .gather t (a.tail A start)
      (.whole I indexBlock.size .int32 indices.shape) (.whole S sourceBlock.size t source.shape)
      n e.block) (s.addHandle A) =
        (.error (.error (.launchFailed Direction.gather.kernel reason)), s.addHandle A) := by
    by_cases hunfit : Kernel.Unfit t (a.tail A start)
        (.whole I indexBlock.size .int32 indices.shape) (.whole S sourceBlock.size t source.shape)
        n e.block
    · exact Kernel.exec_checkOperands_of_unfit hunfit
    · have hindexed : n ≤ indices.len := by
        refine Nat.le_of_not_lt fun hlt => hunfit (.inr (.inr (.inr (.inr ?_))))
        rwa [hindices.numel_eq, ElementShape.block_scalar, Nat.mul_one]
      have hlen : a.len - start < n := by omega
      refine Kernel.exec_checkOperands_of_short hunfit hproduct ?_
      rw [Direction.itemized, Spans.numel_tail]
      exact Nat.mul_lt_mul_of_pos_right hlen e.nonempty
  have hlaunch := Kernel.exec_launch_of_refused (g := a.grid) hitems hchecks
  refine ⟨.device (.launchFailed Direction.gather.kernel reason), ?_⟩
  rw [exec_gather_of_le ha hindices hsource hitems helement hstart
    (exec_mapError_of_error hlaunch), Store.dropHandle_addHandle hA]
  rfl

/-! ## Gathers that run -/

variable (hblock : s.block? A = some block) (hindexBlock : s.block? I = some indexBlock)
  (hsourceBlock : s.block? S = some sourceBlock)

include hblock hindexBlock hsourceBlock

/-- The launch of a gather whose elements lie inside can run. -/
theorem launchable_tail (hitems : 1 ≤ n) (hproduct : n * e.block < Word.limit)
    (hthreads : 1 ≤ a.grid.threadsPerBlock)
    (hspan : a.grid.threadsPerBlock * e.block < Word.limit) (hfits : start + n ≤ a.len)
    (hindexed : n ≤ indices.len)
    (hgrants : s.grants (Kernel.snapshots (.whole A block.size t a.shape)
      [.whole S sourceBlock.size t source.shape, .whole I indexBlock.size .int32 indices.shape]
      s) = true) :
    Kernel.Launchable .gather t (a.tail A start) (.whole I indexBlock.size .int32 indices.shape)
      (.whole S sourceBlock.size t source.shape) n e.block a.grid (s.addHandle A) where
  items_pos := hitems
  block_pos := e.nonempty
  threads_pos := hthreads
  product_lt := hproduct
  span_lt := hspan
  destination_readable := ha.readable_tail ((Store.block?_addHandle ..).trans hblock)
    (Nat.le_trans (Nat.le_add_right ..) hfits)
  indices_readable := hindices.readable ((Store.block?_addHandle ..).trans hindexBlock)
  source_readable := hsource.readable ((Store.block?_addHandle ..).trans hsourceBlock)
  indexed := by
    rw [hindices.numel_eq, ElementShape.block_scalar, Nat.mul_one]
    exact hindexed
  itemized := by
    have hlen : n ≤ a.len - start := by omega
    rw [Direction.itemized, Spans.numel_tail]
    exact Nat.mul_le_mul_right _ hlen
  snapshots_granted := by
    rw [Kernel.snapshots_addHandle, ← hgrants]
    exact Store.grants_congr _ rfl

end Operands

/-- It ends well if every index addresses an element of the source, and writes what its loop makes
    of what the operands held. -/
theorem exec_launch_tail (ha : a.Spans A block) (hsource : source.Spans S sourceBlock)
    (hblock : s.block? A = some block) (hindexBlock : s.block? I = some indexBlock)
    (hsourceBlock : s.block? S = some sourceBlock) (hstart : start ≤ a.len)
    (hlaunchable : Kernel.Launchable .gather t (a.tail A start)
      (.whole I indexBlock.size .int32 indices.shape) (.whole S sourceBlock.size t source.shape)
      n e.block a.grid (s.addHandle A))
    (hall : ∀ i < n, Addresses (indexAt (Scalar.decodeAll .int32 indexBlock.bytes) i) e.block
      (source.len * e.block)) :
    ∃ s' new, exec (Kernel.launch .gather t (a.tail A start)
        (.whole I indexBlock.size .int32 indices.shape) (.whole S sourceBlock.size t source.shape)
        n e.block a.grid) (s.addHandle A) = (.ok (), s') ∧
      new = gatherLoop e.block n ((Scalar.decodeAll t block.bytes).drop (start * e.block))
        (Scalar.decodeAll .int32 indexBlock.bytes) (Scalar.decodeAll t sourceBlock.bytes) ∧
      (Scalar.encodeAll new).length = (a.tail A start).size ∧
      (a.tail A start).Overwritten (Scalar.encodeAll new) (s.addHandle A) s' := by
  have hkept {id : AllocationId} {memory : Block} (hmemory : s.block? id = some memory) :
      (s.addHandle A).block? id = some memory := (Store.block?_addHandle ..).trans hmemory
  have hready (b : Buffer) {memory : Block} (hmemory : s.block? b.allocation = some memory) :
      exec b.acquire (s.addHandle A) = (.ok (), s.addHandle A) :=
    Buffer.exec_acquire (hkept hmemory)
  have hpositions := values_whole (t := .int32) (hkept hindexBlock) rfl indices.shape
  have hresult := hlaunchable.result_eq fun i hi => by
    rw [hpositions, Direction.addressed, hsource.numel_eq]
    exact hall i hi
  obtain ⟨s', hexec, hwritten⟩ := hlaunchable.exec_launch (s := s.addHandle A) (by
    rw [exec_bind_of_ok (hready (a.tail A start) hblock), exec_bind_of_ok (hready _ hsourceBlock),
      hready _ hindexBlock])
  have hlength := Kernel.length_encodeAll_result .gather
    (.whole I indexBlock.size .int32 indices.shape) (.whole S sourceBlock.size t source.shape) n
    e.block a.grid hlaunchable.destination_readable.backed hlaunchable.destination_readable.laidOut
  rw [hresult, ha.values_tail (hkept hblock) hstart, hpositions,
    values_whole (hkept hsourceBlock) rfl] at hexec hwritten hlength
  exact ⟨s', _, hexec, rfl, hlength, hwritten⟩

/-- A gather whose elements lie inside, with an index for each that names an element of the source,
    adds what the source held before. -/
theorem exec_gather_of_fits (ha : a.Spans A block) (hindices : indices.Spans I indexBlock)
    (hsource : source.Spans S sourceBlock) (hblock : s.block? A = some block)
    (hindexBlock : s.block? I = some indexBlock) (hsourceBlock : s.block? S = some sourceBlock)
    (hitems : 1 ≤ n) (helement : e.block * t.bytes < Word.limit)
    (hproduct : n * e.block < Word.limit) (hthreads : 1 ≤ a.grid.threadsPerBlock)
    (hspan : a.grid.threadsPerBlock * e.block < Word.limit) (hfits : start + n ≤ a.len)
    (hindexed : n ≤ indices.len)
    (hgrants : s.grants (Kernel.snapshots (.whole A block.size t a.shape)
      [.whole S sourceBlock.size t source.shape, .whole I indexBlock.size .int32 indices.shape]
      s) = true)
    (hnamed : ∀ i < n,
      0 ≤ indexAt ((Buffer.whole I indexBlock.size .int32 indices.shape).values .int32 s) i ∧
        indexAt ((Buffer.whole I indexBlock.size .int32 indices.shape).values .int32 s) i <
          source.len)
    (hA : 0 < s.handles A) :
    ∃ s', exec (a.gather start indices source n) s = (.ok (), s') ∧
      GatheredFrom start e.block n
        ((Buffer.whole I indexBlock.size .int32 indices.shape).values .int32 s)
        ((Buffer.whole S sourceBlock.size t source.shape).values t s)
        ((Buffer.whole A block.size t a.shape).values t s)
        ((Buffer.whole A block.size t a.shape).values t s') ∧
      ∀ id, id ≠ A → s'.block? id = s.block? id := by
  have hstart : start ≤ a.len := Nat.le_trans (Nat.le_add_right ..) hfits
  rw [values_whole hindexBlock rfl] at hnamed ⊢
  rw [values_whole hsourceBlock rfl, values_whole hblock rfl]
  have hall : ∀ i < n, Addresses (indexAt (Scalar.decodeAll .int32 indexBlock.bytes) i) e.block
      (source.len * e.block) := by
    intro i hi
    obtain ⟨hnonneg, hlt⟩ := hnamed i hi
    refine ⟨hnonneg, ?_⟩
    push_cast
    exact Int.mul_le_mul_of_nonneg_right hlt (Int.natCast_nonneg _)
  have hlaunchable := launchable_tail ha hindices hsource hblock hindexBlock hsourceBlock hitems
    hproduct hthreads hspan hfits hindexed hgrants
  obtain ⟨s', new, hexec, rfl, hnew, hwritten⟩ := exec_launch_tail ha hsource hblock hindexBlock
    hsourceBlock hstart hlaunchable hall
  -- the view is dropped again, which makes no difference to what was written through it
  have hwritten := hwritten.dropHandle hA
  refine ⟨s'.dropHandle A, exec_gather_of_le ha hindices hsource hitems helement hstart
    (exec_mapError_eq_ok_iff.mpr hexec), ?_, fun id hid => hwritten.block?_of_ne hid⟩
  rw [ha.values_overwritten hblock hstart hnew hwritten]
  refine gatheredFrom_gatherLoop e.nonempty ?_ ?_ ?_
  · rw [hindices.length_scalars, ElementShape.block_scalar, Nat.mul_one]
    exact hindexed
  · rw [ha.length_scalars]
    exact Nat.mul_le_mul_right _ hfits
  · rw [hsource.length_scalars]
    exact hall

end BlockArray

/-! ## Arrays of a session -/

namespace Session

open Launch

/-- A gather of `n` items into an acquired array, from element `start` on, ends well exactly when
    there are no items, or the elements lie inside the array and there is an index for each. Each
    of them then is what it was plus the element of the source that its index names, as that was
    before, though the arrays may share memory. All other scalars of the array are what they were,
    and so is all other memory. Otherwise the gather fails, with an error and not with a trap, and
    the store is the one from before. -/
theorem gather_exact {s : Session} (hs : s.Reachable) {t : ScalarType} {e : ElementShape}
    {a source : BlockArray t e} {indices : BlockArray .int32 .scalar}
    {name sourceName indicesName : String} {b p v : Buffer} {start n : Nat}
    (ha : s.arrays.lookup name = some ⟨t, e, a⟩)
    (hindices : s.arrays.lookup indicesName = some ⟨.int32, .scalar, indices⟩)
    (hsource : s.arrays.lookup sourceName = some ⟨t, e, source⟩)
    (hb : a.buffer = some b) (hp : indices.buffer = some p) (hv : source.buffer = some v)
    (helement : e.block * t.bytes < Word.limit) (hproduct : n * e.block < Word.limit)
    (hthreads : 1 ≤ a.grid.threadsPerBlock)
    (hspan : a.grid.threadsPerBlock * e.block < Word.limit)
    (hgrants : s.store.grants (Kernel.snapshots b [v, p] s.store) = true)
    (hnamed : ∀ i < n, i < indices.len → 0 ≤ indexAt (p.values .int32 s.store) i ∧
      indexAt (p.values .int32 s.store) i < source.len) :
    (n = 0 ∨ start + n ≤ a.len ∧ n ≤ indices.len →
      ∃ s', exec (a.gather start indices source n) s.store = (.ok (), s') ∧
        GatheredFrom start e.block n (p.values .int32 s.store) (v.values t s.store)
          (b.values t s.store) (b.values t s') ∧
        ∀ id, id ≠ b.allocation → s'.block? id = s.store.block? id) ∧
    (¬(n = 0 ∨ start + n ≤ a.len ∧ n ≤ indices.len) →
      ∃ cause, exec (a.gather start indices source n) s.store =
        (.error (.error cause), s.store)) := by
  obtain ⟨block, hblock, hspans, hwhole⟩ := hs.spans ha hb
  obtain ⟨indexBlock, hindexBlock, hindexSpans, hindexWhole⟩ := hs.spans hindices hp
  obtain ⟨sourceBlock, hsourceBlock, hsourceSpans, hsourceWhole⟩ := hs.spans hsource hv
  have hA : 0 < s.store.handles b.allocation := hs.sound.handles_pos_of_lookup ha b hb
  rcases Nat.eq_zero_or_pos n with rfl | hitems
  · exact ⟨fun _ => ⟨s.store, rfl, gatheredFrom_zero, fun _ _ => rfl⟩,
      fun hnot => absurd (.inl rfl) hnot⟩
  refine ⟨fun hfits => ?_, fun hnot => ?_⟩
  · obtain ⟨hfits, hindexed⟩ := hfits.resolve_left (Nat.ne_of_gt hitems)
    rw [hwhole, hindexWhole, hsourceWhole] at hgrants ⊢
    rw [hindexWhole] at hnamed
    exact BlockArray.exec_gather_of_fits hspans hindexSpans hsourceSpans hblock hindexBlock
      hsourceBlock hitems helement hproduct hthreads hspan hfits hindexed hgrants
      (fun i hi => hnamed i hi (Nat.lt_of_lt_of_le hi hindexed)) hA
  · refine BlockArray.exec_gather_of_short hspans hindexSpans hsourceSpans hitems helement hproduct
      hA ?_
    omega

/-- Commands that acquire pairs and single numbers of one pool slot and write the numbers. -/
def overlaidRun : List Command :=
  [.allocator (.make "device" .host [.metered]),
    .pool (.make "shared" "device" false),
    .array (.shared "pairs" .int32 ⟨2, 1, 1, Nat.two_pos⟩ "shared" ⟨1, Nat.one_ne_zero⟩ 2),
    .array (.shared "numbers" .int32 .scalar "shared" ⟨1, Nat.one_ne_zero⟩ 4),
    .array (.acquire "pairs"),
    .array (.acquire "numbers"),
    .array (.ofHost "numbers" [.integer 0, .integer 7, .integer 5, .integer 3])]

/-- The pairs of the run. -/
def overlaidPairs : BlockArray .int32 ⟨2, 1, 1, Nat.two_pos⟩ :=
  ⟨2, some ⟨0, 0, 16, .int32, [2, 2, 1, 1]⟩, .shared ⟨1, Nat.one_ne_zero⟩, some 0, Grid.default⟩

/-- The same memory as numbers. -/
def overlaidNumbers : BlockArray .int32 .scalar :=
  ⟨4, some ⟨0, 0, 16, .int32, [4, 1, 1, 1]⟩, .shared ⟨1, Nat.one_ne_zero⟩, some 0, Grid.default⟩

/-- The array is its own source and holds its own indices: the first pair is added into the last
    one, and not into one behind that. -/
theorem gather_exact_overlaidRun :
    (∃ s', exec (overlaidPairs.gather 1 overlaidNumbers overlaidPairs 1)
        (empty.after overlaidRun).store = (.ok (), s') ∧
      GatheredFrom 1 2 1 [0, 7, 5, 3] [0, 7, 5, 3] [0, 7, 5, 3]
        (Buffer.values .int32 ⟨0, 0, 16, .int32, [2, 2, 1, 1]⟩ s')) ∧
    ∃ cause, exec (overlaidPairs.gather 2 overlaidNumbers overlaidPairs 1)
      (empty.after overlaidRun).store = (.error (.error cause), (empty.after overlaidRun).store) := by
  have hreachable : (empty.after overlaidRun).Reachable := Reachable.empty.after rfl
  have hpairs : (empty.after overlaidRun).arrays.lookup "pairs" =
      some ⟨.int32, ⟨2, 1, 1, Nat.two_pos⟩, overlaidPairs⟩ := rfl
  have hnumbers : (empty.after overlaidRun).arrays.lookup "numbers" =
      some ⟨.int32, .scalar, overlaidNumbers⟩ := rfl
  constructor
  · obtain ⟨s', hexec, hgathered, -⟩ := (gather_exact hreachable hpairs hnumbers hpairs rfl rfl rfl
      (by decide) (show 1 * 2 < Word.limit by decide) (by decide) (by decide) rfl (by decide)).1
      (.inr (show 1 + 1 ≤ 2 ∧ 1 ≤ 4 by decide))
    exact ⟨s', hexec, hgathered⟩
  · exact (gather_exact hreachable hpairs hnumbers hpairs rfl rfl rfl (by decide)
      (show 1 * 2 < Word.limit by decide) (by decide) (by decide) rfl (by decide)).2
      (show ¬(1 = 0 ∨ 2 + 1 ≤ 2 ∧ 1 ≤ 4) by decide)

end Session

end DeviceMemory
