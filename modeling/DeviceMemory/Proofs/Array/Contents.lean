-- SUMMARY: Arrays that span an allocation read all of its bytes and write all of them.
import DeviceMemory.Proofs.Array.Since
import DeviceMemory.Proofs.Buffer.Contents

/-!
# Arrays and their bytes

An array that spans an allocation has no contents of its own: reading it decodes
the bytes that the allocation has, writing it encodes the scalars over all of
them. So two arrays that span one allocation, as scalars of whatever types, read
what either writes.
-/

namespace DeviceMemory

namespace BlockArray

open DeviceMemory.Action

variable {t : ScalarType} {e : ElementShape} {a : BlockArray t e} {A : AllocationId} {s s' : Store}
  {block : Block}

/-- The array is the whole of an allocation with this memory, in its own type and shape. -/
structure Spans (a : BlockArray t e) (A : AllocationId) (block : Block) : Prop where
  buffer : a.buffer = some (.whole A block.size t a.shape)
  byteSize : DeviceMemory.byteSize? t a.shape = some block.size

/-- The scalars of an array whose bytes fit in a word are as many as those bytes hold. -/
theorem numel?_eq_some {size : Nat} (hsize : DeviceMemory.byteSize? t a.shape = some size) :
    ∃ count, a.numel? = some count ∧ t.bytes * count = size := by
  obtain ⟨count, hcount, hbytes⟩ := Option.bind_eq_some_iff.mp hsize
  refine ⟨count, ?_, (Word.mul?_eq_some_iff.mp hbytes).2.symm⟩
  simp only [shape, bufferShape, Word.product?, List.foldlM_cons, List.foldlM_nil,
    Option.bind_eq_bind, Option.bind_eq_some_iff, Word.mul?_eq_some_iff] at hcount
  obtain ⟨_, ⟨-, rfl⟩, _, ⟨-, rfl⟩, _, ⟨-, rfl⟩, _, ⟨hlt, rfl⟩, hcount⟩ := hcount
  cases hcount
  have hassoc : a.len * e.block = 1 * a.len * e.s1 * e.s2 * e.s3 := by
    rw [ElementShape.block, Nat.one_mul, ← Nat.mul_assoc, ← Nat.mul_assoc]
  exact Word.mul?_eq_some_iff.mpr ⟨hassoc ▸ hlt, hassoc.symm⟩

/-- An array is written with as many scalars as it has. -/
theorem numel?_of_exec_ofHost {values : List (Scalar t)}
    (hwrite : exec (a.ofHost values) s = (.ok (), s')) : a.numel? = some values.length := by
  obtain ⟨count, hcount, hrest⟩ := of_exec_checked_bind hwrite
  obtain ⟨hlength, -⟩ := of_exec_ensure_bind hrest
  rw [hcount, hlength]

/-- An array that is written has memory. -/
theorem exists_buffer_of_exec_ofHost {values : List (Scalar t)}
    (hwrite : exec (a.ofHost values) s = (.ok (), s')) : ∃ b, a.buffer = some b := by
  obtain ⟨count, -, hrest⟩ := of_exec_checked_bind hwrite
  obtain ⟨-, hrest⟩ := of_exec_ensure_bind hrest
  obtain ⟨b, s₁, hmemory, -⟩ := exists_of_exec_bind hrest
  unfold memory at hmemory
  split at hmemory
  next b hb => exact ⟨b, hb⟩
  next => cases hmemory

/-- An array spans what its buffer covers. -/
theorem exists_spans {h : Holdings} (hs : s.Balanced h) {b : Buffer} (hbuffer : a.buffer = some b)
    (hb : b.Covers t a.shape s) :
    ∃ block, s.block? b.allocation = some block ∧ a.Spans b.allocation block := by
  obtain ⟨allocation, hallocation, hmemory, hsize, hwhole⟩ := hb
  obtain ⟨block, hblock⟩ := Option.isSome_iff_exists.mp hmemory
  have hsame : block.size = allocation.size :=
    hs.sizes allocation (List.mem_of_getElem? hallocation) block hblock
  refine ⟨block, by rw [Store.block?, hallocation, Option.bind_some, hblock], ?_, ?_⟩
  · rw [hbuffer, hsame, ← hwhole]
  · rw [hsize, hsame]

namespace Spans

/-- The range of an array that spans memory. -/
theorem inside (ha : a.Spans A block) (hblock : s.block? A = some block) :
    (Buffer.whole A block.size t a.shape).Inside s := by
  obtain ⟨count, -, hbytes⟩ := Option.bind_eq_some_iff.mp ha.byteSize
  obtain ⟨hlt, hsize⟩ := Word.mul?_eq_some_iff.mp hbytes
  exact ⟨block, hblock, Nat.le_of_eq (Nat.zero_add _), hsize.symm ▸ hlt⟩

theorem exec_memory (ha : a.Spans A block) :
    exec a.memory s = (.ok (.whole A block.size t a.shape), s) := by
  rw [memory, ha.buffer]
  rfl

/-- An array still spans its allocation after others were written to. -/
theorem since (ha : a.Spans A block) (hblock : s.block? A = some block) (hpos : 0 < s.handles A)
    {written : Set AllocationId} {extra : Multiset AllocationId} (hs : s.Since written extra s') :
    ∃ block', s'.block? A = some block' ∧ a.Spans A block' := by
  obtain ⟨block', hblock', htag, -⟩ := hs.memory hpos hblock
  have hsize : block'.size = block.size := congrArg Tag.size htag
  exact ⟨block', hblock', by rw [hsize]; exact ha.buffer, by rw [hsize]; exact ha.byteSize⟩

/-- Reading decodes all bytes of the allocation. -/
theorem exec_toHost (ha : a.Spans A block) (hblock : s.block? A = some block) :
    exec a.toHost s = (.ok (Scalar.decodeAll t (s.bytes A)), s) := by
  obtain ⟨count, hcount, hsize⟩ := numel?_eq_some ha.byteSize
  have hinside := ha.inside hblock
  have hbytes : (Buffer.whole A block.size t a.shape).bytes s = s.bytes A := by
    rw [Buffer.bytes, Buffer.whole, Store.bytes_of_block? hblock, List.drop_zero]
    exact List.take_length
  have hread := hinside.backed.read_eq (hsize.symm.trans (Nat.mul_comm ..))
  rw [toHost, exec_bind_of_ok ha.exec_memory, numel, exec_checked_bind hcount,
    exec_bind_of_ok (exec_mapError_eq_ok_iff.mpr hread), exec_pure, hbytes]

/-- Where scalars are in memory, they are read. -/
theorem exec_toHost_of_encodeAll (ha : a.Spans A block) (hblock : s.block? A = some block)
    {values : List (Scalar t)} (hbytes : s.bytes A = Scalar.encodeAll values) :
    exec a.toHost s = (.ok values, s) := by
  rw [ha.exec_toHost hblock, hbytes, Scalar.decodeAll_encodeAll]

/-- An array reads as many scalars as it has. -/
theorem numel?_eq (ha : a.Spans A block) (hblock : s.block? A = some block) :
    a.numel? = some (Scalar.decodeAll t (s.bytes A)).length := by
  obtain ⟨count, hcount, hsize⟩ := numel?_eq_some ha.byteSize
  have hlength : (s.bytes A).length = t.bytes * count := by
    rw [Store.bytes_of_block? hblock, hsize, Block.size]
  rw [hcount, Scalar.decodeAll_length, hlength, Nat.mul_div_cancel_left _ t.bytes_pos]

/-- As many scalars as the array has can be written. -/
theorem exec_ofHost (ha : a.Spans A block) (hblock : s.block? A = some block)
    {values : List (Scalar t)} (hvalues : a.numel? = some values.length) :
    (Scalar.encodeAll values).length = block.size ∧
      exec (a.ofHost values) s =
        (.ok (), (Buffer.whole A block.size t a.shape).overwrite (Scalar.encodeAll values) s) := by
  obtain ⟨count, hcount, hsize⟩ := numel?_eq_some ha.byteSize
  cases hcount.symm.trans hvalues
  have hbytes : (Scalar.encodeAll values).length = block.size := by
    rw [Scalar.encodeAll_length, hsize]
  have hstore := (ha.inside hblock).backed.write_eq hbytes.symm
  refine ⟨hbytes, ?_⟩
  rw [ofHost, numel, exec_checked_bind hvalues, exec_ensure_bind rfl,
    exec_bind_of_ok ha.exec_memory, exec_mapError_eq_ok_iff.mpr hstore]

/-- A write that ends well replaces all bytes of the allocation. -/
theorem block?_ofHost (ha : a.Spans A block) (hblock : s.block? A = some block)
    {values : List (Scalar t)} (hwrite : exec (a.ofHost values) s = (.ok (), s')) :
    ∃ block', s'.block? A = some block' ∧ block'.bytes = Scalar.encodeAll values := by
  obtain ⟨hbytes, hexec⟩ := ha.exec_ofHost hblock (numel?_of_exec_ofHost hwrite)
  rw [hexec] at hwrite
  cases hwrite
  refine ⟨block.overwrite 0 (Scalar.encodeAll values), ?_, ?_⟩
  · exact Buffer.overwritten_overwrite.block? (b := .whole A block.size t a.shape) hblock
  · rw [Block.overwrite_all hbytes]

theorem bytes_ofHost (ha : a.Spans A block) (hblock : s.block? A = some block)
    {values : List (Scalar t)} (hwrite : exec (a.ofHost values) s = (.ok (), s')) :
    s'.bytes A = Scalar.encodeAll values := by
  obtain ⟨block', hblock', hbytes⟩ := ha.block?_ofHost hblock hwrite
  rw [Store.bytes_of_block? hblock', hbytes]

/-- Zeroing clears the memory of the allocation. -/
theorem exec_zero (ha : a.Spans A block) {allocation : Allocation}
    (hA : s.allocations[A]? = some allocation) (hblock : allocation.block = some block) :
    exec a.zero s =
      (.ok (), s.setAllocation A { allocation with block := some block.cleared }) := by
  have hclear : exec (Buffer.whole A block.size t a.shape).zero s =
      (.ok (), s.setAllocation A { allocation with block := some block.cleared }) :=
    Buffer.exec_zero_whole hA hblock ⟨rfl, rfl⟩
  rw [zero, exec_bind_of_ok ha.exec_memory, exec_mapError_eq_ok_iff.mpr hclear]

theorem bytes_zero (ha : a.Spans A block) (hblock : s.block? A = some block)
    (hzero : exec a.zero s = (.ok (), s')) : s'.bytes A = List.replicate block.size 0 := by
  obtain ⟨allocation, hA, hblock'⟩ := Buffer.exists_of_block? hblock
  rw [ha.exec_zero hA hblock'] at hzero
  cases hzero
  have hcleared : (s.setAllocation A { allocation with block := some block.cleared }).block? A =
      some block.cleared := by
    rw [Store.Since.block?_setAllocation hA, if_pos rfl]
  rw [Store.bytes_of_block? hcleared, Block.cleared]

end Spans

/-- An array that was made of scalars holds them. -/
theorem block?_fromHost {h : Holdings} {allocator : AllocatorId} {values : List (Scalar t)}
    (hs : s.Balanced h) (hmade : exec (fromHost e t allocator values) s = (.ok a, s')) :
    ∃ b block, a.buffer = some b ∧ s'.block? b.allocation = some block ∧
      block.bytes = Scalar.encodeAll values := by
  obtain ⟨-, hrest⟩ := of_exec_ensure_bind hmade
  obtain ⟨made, s₁, hnew, hrest⟩ := exists_of_exec_bind hrest
  have hstart : s.Since ∅ 0 s := .refl s
  obtain ⟨b, rfl, -, -, hcovers⟩ := of_exec_triple (since_new e t allocator _) hstart hnew
  obtain ⟨hbalanced, -⟩ := of_exec_triple (triple_new e t allocator _) hs hnew
  obtain ⟨_, s₂, hfill, hend⟩ := exists_of_exec_bind hrest
  cases hend
  obtain ⟨block, hblock, hspans⟩ : ∃ block, s₁.block? b.allocation = some block ∧
      Spans ⟨values.length / e.block, some b, .owned, none, Grid.default⟩ b.allocation block :=
    exists_spans hbalanced rfl hcovers
  obtain ⟨block', hblock', hbytes⟩ := hspans.block?_ofHost hblock (of_exec_orDrop hfill)
  exact ⟨b, block', rfl, hblock', hbytes⟩

end BlockArray

end DeviceMemory
