-- SUMMARY: A copy between equally long ranges leaves in the one what the other held before, however they overlap, unless it is staged through a temporary that cannot hold it.
import DeviceMemory.Proofs.Buffer.Contents

/-!
# Copies between ranges

A copy from one range to another of the same length is a move: the destination
holds afterwards what the source held before, and no other byte is different
(`copyFrom_moves`). Two ranges of one allocation may overlap, so a copy between
them is staged through a temporary, unless they begin at the same place and
nothing has to move.

The temporary has room for the whole scalars of the source. A source of some more
bytes (`Buffer.Ragged`) does not fit in it, and the staged copy is refused, though
the same ranges in two allocations are copied.
-/

namespace DeviceMemory

open DeviceMemory.Action

/-! ## Writing what is there already -/

theorem Block.overwrite_same {block : Block} {offset size : Nat}
    (hfits : offset + size ≤ block.size) :
    block.overwrite offset ((block.bytes.drop offset).take size) = block := by
  have hlength : ((block.bytes.drop offset).take size).length = size := by
    have hfits : offset + size ≤ block.bytes.length := hfits
    rw [List.length_take, List.length_drop]
    omega
  rw [overwrite, hlength, List.append_assoc, ← List.drop_drop, List.take_append_drop,
    List.take_append_drop]

namespace Buffer

variable {s s' ready : Store} {b source : Buffer}

/-- A store in which nothing was written is one in which the range got what it had. -/
theorem Backed.overwritten_same (hb : b.Backed s) : b.Overwritten (b.bytes s) s s := by
  obtain ⟨block, hblock, hfits⟩ := hb
  obtain ⟨a, ha, hab⟩ := exists_of_block? hblock
  have hsame : Allocation.overwrite b.offset (b.bytes s) a = a := by
    rw [Allocation.overwrite, hab, Option.map_some, bytes, Store.bytes_of_block? hblock,
      Block.overwrite_same hfits, ← hab]
  refine ⟨[], by simp, ?_⟩
  rw [Entries.modify_eq_set ha, hsame, List.append_nil]
  obtain ⟨hlt, rfl⟩ := List.getElem?_eq_some_iff.mp ha
  exact (List.set_getElem_self hlt).symm

/-- Memory that got what it had is as before. -/
theorem Overwritten.block?_of_same (hs : b.Overwritten (b.bytes s) s s') (hb : b.Backed s)
    (id : AllocationId) : s'.block? id = s.block? id := by
  by_cases hid : id = b.allocation
  · obtain ⟨block, hblock, hfits⟩ := hb
    rw [hid, hs.block? hblock, hblock, bytes, Store.bytes_of_block? hblock,
      Block.overwrite_same hfits]
  · exact hs.block?_of_ne hid

/-! ## Temporaries -/

/-- The range has some bytes more than those of its whole scalars. -/
def Ragged (b : Buffer) : Prop := b.size % b.dtype.bytes ≠ 0

instance (b : Buffer) : Decidable b.Ragged := inferInstanceAs (Decidable (_ ≠ _))

/-- The range does not hold whole, aligned scalars. -/
def Misplaced (b : Buffer) : Prop := b.offset % b.dtype.bytes ≠ 0 ∨ b.Ragged

instance (b : Buffer) : Decidable b.Misplaced := inferInstanceAs (Decidable (_ ∨ _))

theorem laidOut_of_not_misplaced {t : ScalarType} (hdtype : b.dtype = t) (hplace : ¬b.Misplaced) :
    b.LaidOut t := by
  obtain ⟨haligned, hwhole⟩ := not_or.mp hplace
  exact ⟨hdtype, hdtype ▸ not_not.mp haligned, hdtype ▸ not_not.mp hwhole⟩

theorem LaidOut.not_misplaced {t : ScalarType} (hlaid : b.LaidOut t) : ¬b.Misplaced := by
  obtain ⟨rfl, haligned, hwhole⟩ := hlaid
  exact not_or.mpr ⟨not_not.mpr haligned, not_not.mpr hwhole⟩

/-- Bytes of the whole scalars of the range. -/
def wholeSize (b : Buffer) : Nat := b.dtype.bytes * b.numel

theorem wholeSize_le (b : Buffer) : b.wholeSize ≤ b.size :=
  Nat.mul_div_le b.size b.dtype.bytes

theorem wholeSize_eq (hwhole : ¬b.Ragged) : b.wholeSize = b.size :=
  Nat.mul_div_cancel' (Nat.dvd_of_mod_eq_zero (Decidable.not_not.mp hwhole))

theorem wholeSize_ne (hragged : b.Ragged) : b.wholeSize ≠ b.size := by
  intro hsize
  refine hragged (Nat.mod_eq_zero_of_dvd ?_)
  exact hsize ▸ Nat.dvd_mul_right b.dtype.bytes b.numel

/-- The size of a copy of the whole scalars. -/
theorem byteSize?_wholeSize (hword : b.size < Word.limit) :
    byteSize? b.dtype [b.numel] = some b.wholeSize := by
  have hwhole : (whole b.allocation b.wholeSize b.dtype []).numel = b.numel :=
    Nat.mul_div_cancel_left b.numel b.dtype.bytes_pos
  have hmod : b.wholeSize % b.dtype.bytes = 0 := Nat.mul_mod_right ..
  have hlt : b.wholeSize < Word.limit := Nat.lt_of_le_of_lt b.wholeSize_le hword
  have hsize := byteSize?_numel (b := whole b.allocation b.wholeSize b.dtype []) hmod hlt
  rwa [hwhole] at hsize

/-- A copy of the range, held by one handle, is new in the second store. Once that is dropped,
    only what was written in between makes a difference. -/
structure Copied (b copy : Buffer) (s s' : Store) : Prop where
  eq_whole : copy = whole s.allocations.length b.size b.dtype [b.numel]
  extended : s.Extends s'
  inside : copy.Inside s'
  bytes_eq : copy.bytes s' = b.bytes s
  retire : ∀ {d : Buffer} {bytes : List UInt8} {s₁ : Store}, d.Backed s →
    d.Overwritten bytes s' s₁ → d.Overwritten bytes s (s₁.dropHandle copy.allocation)

/-- A range of whole scalars is copied once memory for it is granted. -/
theorem Inside.detach_whole {block : Block} (hb : b.Inside s) (hwhole : ¬b.Ragged)
    (halloc : s.alloc (b.allocator s) b.wholeSize false = (.ok block, s')) :
    ∃ copy s₁, exec b.detach s = (.ok copy, s₁) ∧ b.Copied copy s s₁ ∧
      s₁.allocators = s'.allocators := by
  have hbytes := byteSize?_wholeSize hb.size_lt
  rw [wholeSize_eq hwhole] at hbytes halloc
  obtain ⟨hcopy, hsame⟩ := hb.backed.copy block.address s'.allocators
  refine ⟨_, _, hb.backed.exec_detach hbytes halloc, ⟨rfl, .append _ rfl, ?_, hsame, ?_⟩, rfl⟩
  · refine ⟨_, block?_provided .., Nat.le_of_eq ?_, ?_⟩
    · exact (Nat.zero_add b.size).trans hb.backed.length_bytes.symm
    · exact hb.backed.length_bytes.trans_lt hb.size_lt
  · rintro d bytes s₁ ⟨memory, hmemory, -⟩ hwritten
    exact hwritten.retire hmemory

/-- A copy of a ragged range is refused, its memory is given back and nothing is written. -/
theorem Inside.detach_ragged {block : Block} (hb : b.Inside s) (hragged : b.Ragged)
    (halloc : s.alloc (b.allocator s) b.wholeSize false = (.ok block, s')) {d : Buffer}
    (hd : d.Backed s) :
    ∃ s₁, exec b.detach s = (.error (.error (.sizeMismatch b.wholeSize b.size)), s₁) ∧
      d.Overwritten (d.bytes s) s s₁ := by
  have hallocate := exec_allocate (byteSize?_wholeSize hb.size_lt) halloc
  have hextends : s.Extends (provided (b.allocator s) b.wholeSize false block s'.allocators s) :=
    .append _ rfl
  have hbacked := hb.backed.of_kept fun _ => hextends.block?
  have hsize : (whole s.allocations.length b.wholeSize b.dtype [b.numel]).size ≠ b.size :=
    wholeSize_ne hragged
  have hwritten := (hd.of_kept fun _ => hextends.block?).overwritten_same
  rw [hd.bytes_extends hextends] at hwritten
  obtain ⟨memory, hmemory, -⟩ := hd
  refine ⟨_, ?_, hwritten.retire hmemory⟩
  rw [detach, exec_bind_of_ok (exec_read ..), exec_bind_of_ok hallocate]
  refine exec_bind_of_error ?_
  rw [orDrop, exec_of, exec_bind_of_ok hbacked.exec_acquire, exec_ensure_bind_of_not hsize]
  rfl

/-! ## Copies -/

/-- A copy between the ranges goes through a temporary. -/
def Stages (b source : Buffer) : Prop :=
  b.allocation = source.allocation ∧ b.offset ≠ source.offset

instance (b source : Buffer) : Decidable (b.Stages source) :=
  inferInstanceAs (Decidable (_ ∧ _))

/-- The request for the temporary of a copy, if it needs one. -/
def stagings (b source : Buffer) (s : Store) : List (AllocatorId × Nat) :=
  if b.Stages source then [(source.allocator s, source.wholeSize)] else []

theorem exists_of_stagings (hstages : b.Stages source)
    (hgrants : s.grants (b.stagings source s) = true) :
    ∃ block s', s.alloc (source.allocator s) source.wholeSize false = (.ok block, s') := by
  rw [stagings, if_pos hstages] at hgrants
  obtain ⟨block, s', halloc, -⟩ := Store.grants_cons.mp hgrants
  exact ⟨block, s', halloc⟩

/-- Copying goes on from where both ranges have memory. -/
theorem exec_copyFrom_ready (hready : exec (do b.acquire; source.acquire) s = (.ok (), ready)) :
    exec (b.copyFrom source) s = exec (b.copyFrom source) ready := by
  obtain ⟨_, s₁, hacquire, hacquire'⟩ := exists_of_exec_bind hready
  obtain ⟨block, hblock⟩ := Store.block?_of_allocate hacquire
  obtain ⟨block', hblock'⟩ := Store.block?_of_allocate hacquire'
  have hkept : ready.block? b.allocation = some block := Store.block?_allocate hacquire' hblock
  rw [copyFrom, exec_bind_of_ok hacquire, exec_bind_of_ok hacquire',
    exec_bind_of_ok (exec_acquire hkept), exec_bind_of_ok (exec_acquire hblock')]

/-- Ranges of two allocations are copied at once. -/
theorem Backed.exec_copyFrom_apart (hb : b.Backed s) (hsource : source.Backed s)
    (hsize : b.size = source.size) (hapart : b.allocation ≠ source.allocation) :
    exec (b.copyFrom source) s = (.ok (), b.overwrite (source.bytes s) s) := by
  rw [copyFrom, exec_bind_of_ok hb.exec_acquire, exec_bind_of_ok hsource.exec_acquire,
    exec_ensure_bind hsize, if_pos hapart, exec_bind_of_ok hsource.exec_load,
    hb.exec_store (hsource.length_bytes.trans hsize.symm)]

/-- A range is not copied onto itself. -/
theorem Backed.exec_copyFrom_same (hb : b.Backed s) (hsource : source.Backed s)
    (hsize : b.size = source.size) (hallocation : b.allocation = source.allocation)
    (hoffset : b.offset = source.offset) : exec (b.copyFrom source) s = (.ok (), s) := by
  rw [copyFrom, exec_bind_of_ok hb.exec_acquire, exec_bind_of_ok hsource.exec_acquire,
    exec_ensure_bind hsize, if_neg (not_not.mpr hallocation), if_neg (not_not.mpr hoffset)]
  rfl

/-- A staged copy is a copy of the source, copied and dropped. -/
theorem Backed.exec_copyFrom_staged (hb : b.Backed s) (hsource : source.Backed s)
    (hsize : b.size = source.size) (hstages : b.Stages source) :
    exec (b.copyFrom source) s =
      exec (source.detach >>= fun staged =>
        (staged.load >>= b.store).thenDrop staged.allocation) s := by
  rw [copyFrom, exec_bind_of_ok hb.exec_acquire, exec_bind_of_ok hsource.exec_acquire,
    exec_ensure_bind hsize, if_neg (not_not.mpr hstages.1), if_pos hstages.2]

/-- Through a temporary, the destination gets what the source held before. -/
theorem Backed.copyFrom_staged (hb : b.Backed s) (hsource : source.Inside s)
    (hsize : b.size = source.size) (hstages : b.Stages source) (hwhole : ¬source.Ragged)
    (hgrants : s.grants (b.stagings source s) = true) :
    ∃ s', exec (b.copyFrom source) s = (.ok (), s') ∧ b.Overwritten (source.bytes s) s s' := by
  obtain ⟨block, s₁, halloc⟩ := exists_of_stagings hstages hgrants
  obtain ⟨copy, s₂, hdetach, hcopied, -⟩ := hsource.detach_whole hwhole halloc
  have hload := hcopied.inside.backed.exec_load
  have hlength : (source.bytes s).length = b.size := by
    rw [hsource.backed.length_bytes, hsize]
  have hstore := (hb.of_kept fun _ => hcopied.extended.block?).exec_store hlength
  rw [hcopied.bytes_eq] at hload
  refine ⟨_, ?_, hcopied.retire hb overwritten_overwrite⟩
  rw [hb.exec_copyFrom_staged hsource.backed hsize hstages, exec_bind_of_ok hdetach]
  exact exec_thenDrop ((exec_bind_of_ok hload).trans hstore) _

/-- A source that does not fit in the temporary is refused. -/
theorem Backed.copyFrom_ragged (hb : b.Backed s) (hsource : source.Inside s)
    (hsize : b.size = source.size) (hstages : b.Stages source) (hragged : source.Ragged)
    (hgrants : s.grants (b.stagings source s) = true) :
    ∃ s', exec (b.copyFrom source) s =
        (.error (.error (.sizeMismatch source.wholeSize source.size)), s') ∧
      b.Overwritten (b.bytes s) s s' := by
  obtain ⟨block, s₁, halloc⟩ := exists_of_stagings hstages hgrants
  obtain ⟨s', hdetach, hwritten⟩ := hsource.detach_ragged hragged halloc hb
  refine ⟨s', ?_, hwritten⟩
  rw [hb.exec_copyFrom_staged hsource.backed hsize hstages, exec_bind_of_error hdetach]

/-- A copy that needs no temporary, or one that holds its source, ends well. -/
theorem Backed.copyFrom_fitting (hb : b.Backed s) (hsource : source.Inside s)
    (hsize : b.size = source.size) (hgrants : s.grants (b.stagings source s) = true)
    (hfits : b.Stages source → ¬source.Ragged) :
    ∃ s', exec (b.copyFrom source) s = (.ok (), s') ∧ b.Overwritten (source.bytes s) s s' := by
  by_cases hstages : b.Stages source
  · exact hb.copyFrom_staged hsource hsize hstages (hfits hstages) hgrants
  by_cases hallocation : b.allocation = source.allocation
  · have hoffset : b.offset = source.offset := by
      by_contra hne
      exact hstages ⟨hallocation, hne⟩
    have hbytes : b.bytes s = source.bytes s := by
      rw [bytes, bytes, hallocation, hoffset, hsize]
    refine ⟨s, hb.exec_copyFrom_same hsource.backed hsize hallocation hoffset, ?_⟩
    exact hbytes ▸ hb.overwritten_same
  · exact ⟨_, hb.exec_copyFrom_apart hsource.backed hsize hallocation, overwritten_overwrite⟩

/-- Of two equally long ranges, however they overlap, the one holds after a copy what the other
    held before, once both have memory and a temporary is granted where one is needed. The
    other bytes stay as they are. Only between two places of one allocation, and only if the
    source is more than whole scalars, the copy is refused; then no byte changes. -/
theorem copyFrom_moves (hsize : b.size = source.size)
    (hready : exec (do b.acquire; source.acquire) s = (.ok (), ready))
    (hb : b.Inside ready) (hsource : source.Inside ready)
    (hgrants : ready.grants (b.stagings source ready) = true) :
    (∀ id block, s.block? id = some block → ready.block? id = some block) ∧
      ((b.Stages source → ¬source.Ragged) →
        ∃ s', exec (b.copyFrom source) s = (.ok (), s') ∧
          b.bytes s' = source.bytes ready ∧
          (∀ q, q < b.offset ∨ b.offset + b.size ≤ q →
            (s'.bytes b.allocation)[q]? = (ready.bytes b.allocation)[q]?) ∧
          (∀ id, id ≠ b.allocation → s'.block? id = ready.block? id) ∧
          ∀ id, s'.handles id = ready.handles id) ∧
      (b.Stages source → source.Ragged →
        ∃ s', exec (b.copyFrom source) s =
            (.error (.error (.sizeMismatch source.wholeSize source.size)), s') ∧
          (∀ id, s'.block? id = ready.block? id) ∧
          ∀ id, s'.handles id = ready.handles id) := by
  obtain ⟨_, s₁, hacquire, hacquire'⟩ := exists_of_exec_bind hready
  have hlength : (source.bytes ready).length = b.size := by
    rw [hsource.backed.length_bytes, hsize]
  rw [exec_copyFrom_ready hready]
  refine ⟨fun id block hblock => ?_, fun hfits => ?_, fun hstages hragged => ?_⟩
  · exact Store.block?_allocate hacquire' (Store.block?_allocate hacquire hblock)
  · obtain ⟨s', hexec, hwritten⟩ := hb.backed.copyFrom_fitting hsource hsize hgrants hfits
    exact ⟨s', hexec, hwritten.bytes_eq hb.backed hlength,
      fun q hq => hwritten.getElem?_bytes hb.backed hlength hq,
      fun id hid => hwritten.block?_of_ne hid, hwritten.handles⟩
  · obtain ⟨s', hexec, hwritten⟩ :=
      hb.backed.copyFrom_ragged hsource hsize hstages hragged hgrants
    exact ⟨s', hexec, hwritten.block?_of_same hb.backed, hwritten.handles⟩

/-- A store with one allocation, of twelve bytes. -/
def twelveBytes : Store :=
  let fill : Action DeviceError Unit := do
    let all ← allocate 0 .int32 [3] false
    all.write [0, 1, 2, 3, 4, 5, 6, 7, 8, 9, 10, 11]
  (exec fill ⟨[Stack.new .host [.recycling 1, .metered]], [], [], [], false⟩).2

/-- Two integers that overlap, at odd places, move two bytes on. -/
theorem copyFrom_moves_overlapping :
    ∃ s', exec (copyFrom ⟨0, 3, 8, .int32, [2]⟩ ⟨0, 1, 8, .int32, [2]⟩) twelveBytes =
        (.ok (), s') ∧
      bytes ⟨0, 3, 8, .int32, [2]⟩ s' = [1, 2, 3, 4, 5, 6, 7, 8] ∧
      (s'.bytes 0)[11]? = some 11 := by
  have hready : exec (do
      acquire ⟨0, 3, 8, .int32, [2]⟩
      acquire ⟨0, 1, 8, .int32, [2]⟩) twelveBytes = (.ok (), twelveBytes) := rfl
  obtain ⟨-, hmoves, -⟩ := copyFrom_moves (by decide) hready ⟨_, rfl, by decide, by decide⟩
    ⟨_, rfl, by decide, by decide⟩ (by decide)
  obtain ⟨s', hexec, hbytes, houtside, -⟩ := hmoves (by decide)
  exact ⟨s', hexec, hbytes, houtside 11 (.inr (by decide))⟩

/-- Five bytes cannot move on inside their allocation, though a temporary of that size is
    granted. -/
theorem copyFrom_refuses_five_bytes :
    twelveBytes.grants [(0, 5)] = true ∧
      ∃ s', exec (copyFrom ⟨0, 2, 5, .int32, [1]⟩ ⟨0, 0, 5, .int32, [1]⟩) twelveBytes =
        (.error (.error (.sizeMismatch 4 5)), s') :=
  ⟨by decide, _, rfl⟩

end Buffer

end DeviceMemory
