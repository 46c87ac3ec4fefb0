-- SUMMARY: A copy between arrays ends well exactly when both ranges of scalars lie inside, and then replaces that range only.
import DeviceMemory.Proofs.Array.Gathering
import DeviceMemory.Proofs.Array.Ranges
import DeviceMemory.Proofs.Buffer.Copies

/-!
# Copies between arrays

A copy names an element of its destination and counts scalars, so the two arrays may have
elements of different shapes. Its ranges are views of the two allocations
(`Buffer.stretch`), and it is a copy between these. It ends well exactly when both ranges
lie inside, as natural numbers (`Session.copy_exact`). The scalars of the destination are
then a splice of what the two arrays held before, though they may share memory. Otherwise
the range that does not fit is reported, the destination's first.
-/

namespace DeviceMemory

open DeviceMemory.Action

/-! ## Stretches of scalars -/

namespace Buffer

variable {s : Store} {t : ScalarType} {A S : AllocationId} {block : Block} {start count : Nat}

/-- `count` scalars of an allocation, from scalar `start` on. -/
def stretch (t : ScalarType) (A : AllocationId) (start count : Nat) : Buffer :=
  ⟨A, start * t.bytes, count * t.bytes, t, [count]⟩

theorem not_ragged_stretch : ¬(stretch t A start count).Ragged :=
  not_not.mpr (Nat.mul_mod_left ..)

theorem wholeSize_stretch : (stretch t A start count).wholeSize = count * t.bytes :=
  wholeSize_eq not_ragged_stretch

/-- A copy of the first scalars of an allocation is staged if it goes to others of that. -/
theorem stages_stretch_iff :
    (stretch t A start count).Stages (stretch t S 0 count) ↔ A = S ∧ start ≠ 0 := by
  have hoffset : start * t.bytes = 0 * t.bytes ↔ start = 0 := Nat.mul_left_inj t.bytes_pos.ne'
  exact and_congr_right fun _ => not_congr hoffset

/-- The first scalars of an allocation. -/
theorem decodeAll_stretch_zero (hblock : s.block? S = some block)
    (hcount : count * t.bytes ≤ block.size) :
    Scalar.decodeAll t ((stretch t S 0 count).bytes s) =
      (Scalar.decodeAll t block.bytes).take count := by
  rw [Buffer.bytes, stretch, Store.bytes_of_block? hblock, Nat.zero_mul, List.drop_zero,
    (Scalar.decodeAll_take_drop hcount).1]

end Buffer

namespace BlockArray

variable {t : ScalarType} {e f : ElementShape} {a : BlockArray t e} {source : BlockArray t f}
  {A S : AllocationId} {block sourceBlock : Block} {index start count : Nat} {s s' : Store}

namespace Spans

theorem numel?_eq_mul (ha : a.Spans A block) : a.numel? = some (a.len * e.block) := by
  obtain ⟨count, hcount, -⟩ := numel?_eq_some ha.byteSize
  rw [hcount, (Word.mul?_eq_some_iff.mp hcount).2]

theorem stretch_le (ha : a.Spans A block) (hfits : start + count ≤ a.len * e.block) :
    start * t.bytes + count * t.bytes ≤ block.size := by
  rw [ha.size_eq_mul, ← Nat.add_mul]
  exact Nat.mul_le_mul_right _ hfits

theorem inside_stretch (ha : a.Spans A block) (hblock : s.block? A = some block)
    (hfits : start + count ≤ a.len * e.block) : (Buffer.stretch t A start count).Inside s :=
  ⟨block, hblock, ha.stretch_le hfits, ha.size_lt⟩

/-- A range of scalars that lies inside the array is a view of its memory. -/
theorem exec_view_stretch (ha : a.Spans A block) (hfits : start + count ≤ a.len * e.block)
    (s : Store) :
    exec ((Buffer.whole A block.size t a.shape).view (start * t.bytes) (count * t.bytes)) s =
      (.ok (.stretch t A start count), s.addHandle A) := by
  have hinside := ha.stretch_le hfits
  rw [Buffer.exec_view hinside]
  simp only [Buffer.whole, Buffer.stretch, Nat.zero_add, Nat.mul_div_cancel _ t.bytes_pos]

/-- What the array holds after bytes of scalars were written into a range of it. -/
theorem values_stretch_overwritten (ha : a.Spans A block) (hblock : s.block? A = some block)
    (hfits : start + count ≤ a.len * e.block) {bytes : List UInt8}
    (hlength : bytes.length = count * t.bytes)
    (hwritten : (Buffer.stretch t A start count).Overwritten bytes s s') :
    (Buffer.whole A block.size t a.shape).values t s' =
      (Scalar.decodeAll t block.bytes).take start ++ Scalar.decodeAll t bytes ++
        (Scalar.decodeAll t block.bytes).drop (start + count) := by
  have hinside := ha.stretch_le hfits
  have hblock' : s'.block? A = some (block.overwrite (start * t.bytes) bytes) :=
    hwritten.block? hblock
  rw [values_whole hblock' (Block.size_overwrite (hlength ▸ hinside)),
    Block.decodeAll_overwrite hlength (Nat.add_mul .. ▸ hinside)]

end Spans

/-! ## Copies that run -/

/-- The request for the temporary of a copy of `count` scalars to scalar `start` on, if it needs
    one: it goes to another place of the memory that it comes from. -/
def stagings (t : ScalarType) (b source : Buffer) (start count : Nat) (s : Store) :
    List (AllocatorId × Nat) :=
  if b.allocation = source.allocation ∧ start ≠ 0 ∧ count ≠ 0 then
    [(source.allocator s, count * t.bytes)]
  else []

/-- It is the request of the copy between the two ranges. -/
theorem stagings_eq {b v : Buffer} (hcount : count ≠ 0) :
    stagings t b v start count s = (Buffer.stretch t b.allocation start count).stagings
      (.stretch t v.allocation 0 count) s := by
  rw [stagings, Buffer.stagings, Buffer.wholeSize_stretch]
  refine if_congr ?_ rfl rfl
  rw [Buffer.stages_stretch_iff]
  simp [hcount]

section Operands

variable (ha : a.Spans A block) (hsource : source.Spans S sourceBlock)
  (hfits : index * e.block + count ≤ a.len * e.block) (hgiven : count ≤ source.len * f.block)

include ha hsource hfits hgiven

/-- Nothing is copied once nothing turned out to be past an end. -/
theorem exec_copyFrom_zero (hcount : count = 0) (s : Store) :
    exec (a.copyFrom index source count) s = (.ok (), s) := by
  have hlen : a.len * e.block < Word.limit := lt_of_numel? ha.numel?_eq_mul
  rw [copyFrom, numel, exec_checked_bind ha.numel?_eq_mul,
    exec_ensure_bind ((rangeFits_iff hlen).mpr hfits), numel,
    exec_checked_bind hsource.numel?_eq_mul, exec_ensure_bind hgiven, if_pos hcount]
  rfl

/-- A copy between ranges inside the arrays is one between views of their memory. -/
theorem exec_copyFrom (hcount : count ≠ 0) {outcome : Except (Fault ArrayError) Unit}
    (hcopy : exec (((Buffer.stretch t A (index * e.block) count).copyFrom
      (.stretch t S 0 count)).mapError .device) ((s.addHandle S).addHandle A) = (outcome, s')) :
    exec (a.copyFrom index source count) s = (outcome, (s'.dropHandle A).dropHandle S) := by
  have hlen : a.len * e.block < Word.limit := lt_of_numel? ha.numel?_eq_mul
  have hstart : Word.saturatingMul index e.block = index * e.block := by
    rw [Word.saturatingMul, Word.greatest]
    omega
  have hbytes : Word.mul? count t.bytes = some (count * t.bytes) := by
    refine Word.mul?_eq_some_iff.mpr ⟨Nat.lt_of_le_of_lt ?_ hsource.size_lt, rfl⟩
    rw [hsource.size_eq_mul]
    exact Nat.mul_le_mul_right _ hgiven
  have hoffset : Word.mul? (index * e.block) t.bytes = some (index * e.block * t.bytes) := by
    refine Word.mul?_eq_some_iff.mpr ⟨Nat.lt_of_le_of_lt ?_ ha.size_lt, rfl⟩
    exact Nat.le_trans (Nat.le_add_right ..) (ha.stretch_le hfits)
  have htaken := hsource.exec_view_stretch ((Nat.zero_add count).symm ▸ hgiven) s
  rw [Nat.zero_mul] at htaken
  rw [copyFrom, numel, exec_checked_bind ha.numel?_eq_mul,
    exec_ensure_bind ((rangeFits_iff hlen).mpr hfits), numel,
    exec_checked_bind hsource.numel?_eq_mul, exec_ensure_bind hgiven, if_neg hcount,
    exec_checked_bind hbytes, exec_bind_of_ok hsource.exec_memory,
    exec_bind_of_ok (exec_mapError_eq_ok_iff.mpr htaken), hstart]
  refine exec_thenDrop ?_ S
  rw [exec_bind_of_ok ha.exec_memory, exec_checked_bind hoffset,
    exec_bind_of_ok (exec_mapError_eq_ok_iff.mpr (ha.exec_view_stretch hfits _))]
  exact exec_thenDrop hcopy A

/-- It writes the first scalars of the source, as they were before, over its range. -/
theorem copyFrom_overwritten (hblock : s.block? A = some block)
    (hsourceBlock : s.block? S = some sourceBlock) (hA : 0 < s.handles A) (hS : 0 < s.handles S)
    (hgrants : s.grants (stagings t (.whole A block.size t a.shape)
      (.whole S sourceBlock.size t source.shape) (index * e.block) count s) = true) :
    ∃ s', exec (a.copyFrom index source count) s = (.ok (), s') ∧
      (Buffer.stretch t A (index * e.block) count).Overwritten
        ((Buffer.stretch t S 0 count).bytes s) s s' := by
  by_cases hcount : count = 0
  · refine ⟨s, exec_copyFrom_zero ha hsource hfits hgiven hcount s, ?_⟩
    have hempty : (Buffer.stretch t S 0 count).bytes s =
        (Buffer.stretch t A (index * e.block) count).bytes s := by
      simp [Buffer.bytes, Buffer.stretch, hcount]
    rw [hempty]
    exact (ha.inside_stretch hblock hfits).backed.overwritten_same
  · -- the two views are held while the ranges are copied
    have hkept (id : AllocationId) : ((s.addHandle S).addHandle A).block? id = s.block? id := by
      rw [Store.block?_addHandle, Store.block?_addHandle]
    have hgrants' : ((s.addHandle S).addHandle A).grants
        ((Buffer.stretch t A (index * e.block) count).stagings (.stretch t S 0 count)
          ((s.addHandle S).addHandle A)) = true := by
      rw [stagings_eq hcount] at hgrants
      rw [← hgrants, Buffer.stagings, Buffer.stagings, Buffer.allocator_addHandle,
        Buffer.allocator_addHandle]
      exact Store.grants_congr _ rfl
    obtain ⟨s', hcopy, hwritten⟩ :=
      (ha.inside_stretch ((hkept A).trans hblock) hfits).backed.copyFrom_fitting
        (hsource.inside_stretch ((hkept S).trans hsourceBlock)
          ((Nat.zero_add count).symm ▸ hgiven)) rfl hgrants' fun _ => Buffer.not_ragged_stretch
    have hbytes : (Buffer.stretch t S 0 count).bytes ((s.addHandle S).addHandle A) =
        (Buffer.stretch t S 0 count).bytes s := Buffer.bytes_congr (hkept S)
    have hA' : 0 < (s.addHandle S).handles A := by
      rw [Store.handles_addHandle hS]
      exact Nat.lt_of_lt_of_le hA (Nat.le_add_right ..)
    rw [hbytes] at hwritten
    exact ⟨_, exec_copyFrom ha hsource hfits hgiven hcount (exec_mapError_eq_ok_iff.mpr hcopy),
      (hwritten.dropHandle hA').dropHandle hS⟩

end Operands

end BlockArray

/-! ## Arrays of a session -/

namespace Session

/-- A copy of `count` scalars of an acquired array into another one, from element `index` on,
    ends well exactly when both ranges lie inside their arrays, once a temporary is granted where
    one is needed. The scalars of the destination are then what they were before, with the first
    ones of the source, as these were before, in their place, though the arrays may share memory.
    All other memory is what it was. Otherwise the copy fails with the range that does not fit,
    that of the destination if neither does, and the store is the one from before. -/
theorem copy_exact {s : Session} (hs : s.Reachable) {t : ScalarType} {e f : ElementShape}
    {a : BlockArray t e} {source : BlockArray t f} {name sourceName : String} {b v : Buffer}
    {index count : Nat} (ha : s.arrays.lookup name = some ⟨t, e, a⟩)
    (hsource : s.arrays.lookup sourceName = some ⟨t, f, source⟩)
    (hb : a.buffer = some b) (hv : source.buffer = some v) :
    (index * e.block + count ≤ a.len * e.block ∧ count ≤ source.len * f.block →
      s.store.grants (BlockArray.stagings t b v (index * e.block) count s.store) = true →
      ∃ s', exec (a.copyFrom index source count) s.store = (.ok (), s') ∧
        b.values t s' = (b.values t s.store).take (index * e.block) ++
          (v.values t s.store).take count ++
            (b.values t s.store).drop (index * e.block + count) ∧
        (∀ id, id ≠ b.allocation → s'.block? id = s.store.block? id) ∧
        (∀ id, s'.handles id = s.store.handles id) ∧ s'.trapped = false) ∧
    (a.len * e.block < index * e.block + count →
      exec (a.copyFrom index source count) s.store =
        (.error (.error (.outOfRange "copy destination" (Word.saturatingMul index e.block) count
          (a.len * e.block))), s.store)) ∧
    (index * e.block + count ≤ a.len * e.block → source.len * f.block < count →
      exec (a.copyFrom index source count) s.store =
        (.error (.error (.outOfRange "copy source" 0 count (source.len * f.block))),
          s.store)) := by
  obtain ⟨block, hblock, hspans, hwhole⟩ := hs.spans ha hb
  obtain ⟨sourceBlock, hsourceBlock, hsourceSpans, hsourceWhole⟩ := hs.spans hsource hv
  have hnumel := hspans.numel?_eq_mul
  have hsourceNumel := hsourceSpans.numel?_eq_mul
  refine ⟨fun ⟨hfits, hgiven⟩ hgrants => ?_, fun hpast => ?_, fun hfits hpast => ?_⟩
  · rw [hwhole, hsourceWhole] at hgrants
    obtain ⟨s', hexec, hwritten⟩ := BlockArray.copyFrom_overwritten hspans hsourceSpans hfits hgiven
      hblock hsourceBlock (hs.sound.handles_pos_of_lookup ha b hb)
      (hs.sound.handles_pos_of_lookup hsource v hv) hgrants
    have hheld : a.HeldIn s.holdings := heldIn_of_array hs.sound.distinct ha
    have hsourceHeld : source.HeldIn s.holdings := heldIn_of_array hs.sound.distinct hsource
    have hbalanced : s'.Balanced s.holdings :=
      of_exec_triple (BlockArray.triple_copyFrom hheld hsourceHeld index count) hs.sound.balanced
        hexec
    refine ⟨s', hexec, ?_, fun id hid => hwritten.block?_of_ne hid, hwritten.handles,
      hbalanced.untrapped⟩
    have hinside : count * t.bytes ≤ sourceBlock.size := by
      rw [hsourceSpans.size_eq_mul]
      exact Nat.mul_le_mul_right _ hgiven
    have hlength := (hsourceSpans.inside_stretch hsourceBlock
      ((Nat.zero_add count).symm ▸ hgiven)).backed.length_bytes
    rw [hwhole, hsourceWhole, BlockArray.values_whole hblock rfl,
      BlockArray.values_whole hsourceBlock rfl,
      hspans.values_stretch_overwritten hblock hfits hlength hwritten,
      Buffer.decodeAll_stretch_zero hsourceBlock hinside]
  · exact BlockArray.exec_copyFrom_outside_iff.mpr ⟨rfl, .destination hnumel hpast⟩
  · exact BlockArray.exec_copyFrom_outside_iff.mpr ⟨rfl, .source hnumel hfits hsourceNumel hpast⟩

/-- A copy inside one pool slot, one number on, and two that do not fit. -/
theorem copy_exact_overlaidRun :
    (∃ s', exec (overlaidNumbers.copyFrom 1 overlaidPairs 3)
        (empty.after overlaidRun).store = (.ok (), s') ∧
      Buffer.values .int32 ⟨0, 0, 16, .int32, [4, 1, 1, 1]⟩ s' = [0, 0, 7, 5]) ∧
    exec (overlaidPairs.copyFrom 1 overlaidNumbers 5) (empty.after overlaidRun).store =
      (.error (.error (.outOfRange "copy destination" 2 5 4)), (empty.after overlaidRun).store) := by
  have hreachable : (empty.after overlaidRun).Reachable := Reachable.empty.after rfl
  have hpairs : (empty.after overlaidRun).arrays.lookup "pairs" =
      some ⟨.int32, ⟨2, 1, 1, Nat.two_pos⟩, overlaidPairs⟩ := rfl
  have hnumbers : (empty.after overlaidRun).arrays.lookup "numbers" =
      some ⟨.int32, .scalar, overlaidNumbers⟩ := rfl
  constructor
  · obtain ⟨s', hexec, hvalues, -⟩ := (copy_exact hreachable hnumbers hpairs rfl rfl).1
      (show 1 * 1 + 3 ≤ 4 * 1 ∧ 3 ≤ 2 * 2 by decide) rfl
    exact ⟨s', hexec, hvalues⟩
  · exact (copy_exact hreachable hpairs hnumbers rfl rfl).2.1
      (show 2 * 2 < 1 * 2 + 5 by decide)

end Session

end DeviceMemory
