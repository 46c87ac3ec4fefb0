-- SUMMARY: What is written through a handle is seen through every other one where they overlap, and nowhere else.
import DeviceMemory.Proofs.Buffer.HostBlocks
import DeviceMemory.Proofs.Session.Handles

/-!
# Overlapping handles

The handles of one allocation are views of it and of each other, and may overlap in any
way. Bytes that were written through one of them are read through the others at the
positions that their ranges have in common, and every other byte of memory is read as
before (`Reachable.overlaps_exact`). Zeroing is a write of zeros: it has a shorter way for
a range that is all of its allocation, which makes no difference, though it also clears
what the last word holds behind a size that is no multiple of eight.
-/

namespace DeviceMemory

open DeviceMemory.Action

namespace Session

variable {s : Session} {v : Buffer} {bytes : List UInt8} {s' : Store}

/-- The operations that fill the range of a handle, and the bytes that they fill it with. -/
inductive Fills (v : Buffer) : Action DeviceError Unit → List UInt8 → Prop
  | write {bytes : List UInt8} (hlength : bytes.length = v.size) : Fills v (v.write bytes) bytes
  | zero : Fills v v.zero (List.replicate v.size 0)

/-- What is read after a handle was filled with bytes. Its allocation had its memory in the store
    `ready`, which is the first one if it had it already. -/
structure Filled (s : Session) (v : Buffer) (bytes : List UInt8) (ready s' : Store) : Prop where
  acquired : exec v.acquire s.store = (.ok (), ready)
  settled : v.isAllocated s.store = true → ready = s.store
  /-- Through a handle of the allocation, the new bytes are read where it overlaps with what was
      filled, and the previous ones elsewhere. -/
  shared : ∀ {w}, s.Handle w → w.allocation = v.allocation → ∃ previous seen,
    exec (w.read w.size) ready = (.ok previous, ready) ∧ previous.length = w.size ∧
    exec (w.read w.size) s' = (.ok seen, s') ∧ seen.length = w.size ∧
    ∀ j < w.size, seen[j]? =
      if v.offset ≤ w.offset + j ∧ w.offset + j < v.offset + v.size then
        bytes[w.offset + j - v.offset]?
      else previous[j]?
  /-- Through a handle of another allocation with memory, the previous bytes are read. -/
  apart : ∀ {w}, s.Handle w → w.allocation ≠ v.allocation → w.isAllocated s.store = true →
    ∃ previous, exec (w.read w.size) s.store = (.ok previous, s.store) ∧
      exec (w.read w.size) s' = (.ok previous, s')
  /-- The allocation is held in words, and however it is, these were written. -/
  held : ∃ m : HostBlock, ready.block? v.allocation = some m.toBlock
  words : ∀ m : HostBlock, ready.block? v.allocation = some m.toBlock →
    s'.block? v.allocation = (m.write? v.offset bytes).map HostBlock.toBlock

/-- A write into a range that got its memory. -/
theorem Reachable.filled_of_write (hs : s.Reachable) (hv : s.Handle v)
    (hlength : bytes.length = v.size) (h : exec (v.write bytes) s.store = (.ok (), s')) :
    ∃ ready, s.Filled v bytes ready s' := by
  obtain ⟨_, ready, hacquire, -⟩ := exists_of_exec_bind h
  have hformed := hs.formed_of_handle hv
  have hheld := hv.mem_handles hs.sound
  have hbacked : v.Backed ready := hformed.backed_of_acquire hs.sound.balanced hheld hacquire
  have hwritten : v.Overwritten bytes ready s' := by
    rw [Buffer.write, Buffer.exec_acquire_bind hacquire hbacked, ← Buffer.write,
      hbacked.write_eq hlength.symm] at h
    cases h
    exact Buffer.overwritten_overwrite
  obtain ⟨block, hblock, hfits⟩ := id hbacked
  have hblock' := hwritten.block? hblock
  refine ⟨ready, hacquire, fun hmemory => ?_, fun {w} hw hshared => ?_,
    fun {w} hw hapart hmemory => ?_, ?_, fun m hm => ?_⟩
  · have hsettled := (hformed.backed hs.sound.balanced hmemory).exec_acquire
    rw [hacquire] at hsettled
    exact congrArg Prod.snd hsettled
  · obtain ⟨hw', hready⟩ :=
      (hs.formed_of_handle hw).of_exec_acquire hs.sound.balanced hheld hacquire
    have hwbacked : w.Backed ready :=
      hw'.backed hready (Option.isSome_iff_exists.mpr ⟨block, hshared ▸ hblock⟩)
    have hwbacked' : w.Backed s' := by
      obtain ⟨memory, hmemory, hinside⟩ := hwbacked
      rw [hshared, hblock] at hmemory
      cases hmemory
      refine ⟨_, hshared ▸ hblock', ?_⟩
      rwa [Block.size_overwrite (hlength ▸ hfits)]
    exact ⟨_, _, hwbacked.read_eq rfl, hwbacked.length_bytes, hwbacked'.read_eq rfl,
      hwbacked'.length_bytes, fun j hj =>
        hwritten.getElem?_bytes_of_shared hbacked hlength hshared hj⟩
  · have hwbacked := (hs.formed_of_handle hw).backed hs.sound.balanced hmemory
    have hkept : ∀ memory, s.store.block? w.allocation = some memory →
        s'.block? w.allocation = some memory := fun memory hmemory =>
      (hwritten.block?_of_ne hapart).trans (Store.block?_allocate hacquire hmemory)
    refine ⟨_, hwbacked.read_eq rfl, ?_⟩
    rw [(hwbacked.of_kept hkept).read_eq rfl, hwbacked.bytes_kept hkept]
  · obtain ⟨m, hm⟩ := HostBlock.exists_toBlock block
    exact ⟨m, hm ▸ hblock⟩
  · cases hblock.symm.trans hm
    rw [hblock', HostBlock.toBlock_write?, Block.write?_eq_overwrite (hlength ▸ hfits)]

/-- Bytes that fill the range of a handle are what is read where other handles overlap with it, and
    nothing else is read differently. Zeroing a range is writing zeros into it, and so it is in
    words, where a whole block has a way of its own. -/
theorem Reachable.overlaps_exact (hs : s.Reachable) (hv : s.Handle v) :
    (∀ {act bytes s'}, Fills v act bytes → exec act s.store = (.ok (), s') →
      ∃ ready, s.Filled v bytes ready s') ∧
    exec v.zero s.store = exec (v.write (List.replicate v.size 0)) s.store ∧
    ∀ m : HostBlock, (m.write? 0 (List.replicate m.size 0)).map HostBlock.toBlock =
      some m.cleared.toBlock := by
  have hzero := (hs.formed_of_handle hv).zero_eq_write hs.sound.balanced (hv.mem_handles hs.sound)
  refine ⟨fun hfills h => ?_, hzero, HostBlock.toBlock_write?_zeros⟩
  cases hfills with
  | write hlength => exact hs.filled_of_write hv hlength h
  | zero => exact hs.filled_of_write hv List.length_replicate (hzero ▸ h)

/-- Commands that leave two views of twelve bytes, with two bytes in common. -/
def overlappingRun : List Command :=
  [.allocator (.make "device" .host [.metered]),
    .buffer (.allocate "all" "device" .int32 [3] true),
    .buffer (.view "front" "all" 0 7),
    .buffer (.view "back" "all" 5 7)]

theorem overlaps_exact_overlappingRun :
    (∃ ready s', (empty.after overlappingRun).Filled ⟨0, 0, 7, .int32, [1]⟩ [1, 2, 3, 4, 5, 6, 7]
        ready s' ∧
      exec (Buffer.read ⟨0, 5, 7, .int32, [1]⟩ 7) s' = (.ok [6, 7, 0, 0, 0, 0, 0], s')) ∧
    exec (Buffer.zero ⟨0, 0, 12, .int32, [3]⟩) (empty.after overlappingRun).store =
      exec (Buffer.write ⟨0, 0, 12, .int32, [3]⟩ (List.replicate 12 0))
        (empty.after overlappingRun).store := by
  have hreachable : (empty.after overlappingRun).Reachable := Reachable.empty.after rfl
  have hfront : (empty.after overlappingRun).buffers.lookup "front" =
      some ⟨0, 0, 7, .int32, [1]⟩ := rfl
  have hall : (empty.after overlappingRun).buffers.lookup "all" =
      some ⟨0, 0, 12, .int32, [3]⟩ := rfl
  have hwrite : ∃ s', exec (Buffer.write ⟨0, 0, 7, .int32, [1]⟩ [1, 2, 3, 4, 5, 6, 7])
        (empty.after overlappingRun).store = (.ok (), s') ∧
      exec (Buffer.read ⟨0, 5, 7, .int32, [1]⟩ 7) s' = (.ok [6, 7, 0, 0, 0, 0, 0], s') :=
    ⟨_, rfl, rfl⟩
  obtain ⟨s', hwrite, hread⟩ := hwrite
  obtain ⟨ready, hfilled⟩ :=
    (Reachable.overlaps_exact hreachable (.buffer hfront)).1 (.write rfl) hwrite
  exact ⟨⟨ready, s', hfilled, hread⟩,
    (Reachable.overlaps_exact hreachable (.buffer hall)).2.1⟩

end Session

end DeviceMemory
