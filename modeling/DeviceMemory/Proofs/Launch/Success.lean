-- SUMMARY: What a launch or a reduction that ends well has passed, and what it has made of its operands.
import DeviceMemory.Proofs.Buffer.Changes
import DeviceMemory.Proofs.Launch.Aliasing

/-!
# Launches that end well

That a launch or a reduction ended well says all about its operands that the result
depends on: that their types are right, their ranges lie in memory and there are
enough scalars for the items (`Kernel.Launched`). Nothing of it has to be known
beforehand. Only of the destination it says that its scalars are aligned, for
another operand may have been read from a snapshot, which always is.
-/

namespace DeviceMemory

open DeviceMemory.Action

/-! ## Copies -/

namespace Buffer

variable {s s' : Store} {b copy : Buffer}

/-- A copy that was made is a copy of a range in memory. -/
theorem of_exec_detach {memory : Block} (hmemory : s.block? b.allocation = some memory)
    (h : exec b.detach s = (.ok copy, s')) :
    b.Backed s ∧ copy = whole s.allocations.length b.size b.dtype [b.numel] ∧
      ∃ address allocators,
        s' = provided (b.allocator s) b.size false ⟨address, b.bytes s⟩ allocators s := by
  have hdetach := h
  rw [detach, exec_bind_of_ok (exec_read ..)] at h
  obtain ⟨made, s₁, hmade, h⟩ := exists_of_exec_bind h
  obtain ⟨hbytes, -, -⟩ := of_exec_allocate hmade
  obtain ⟨block, s₂, halloc, rfl⟩ := provided_of_exec_allocate hmade
  have hextends : s.Extends (provided (b.allocator s) made.size false block s₂.allocators s) :=
    .append _ rfl
  obtain ⟨_, _, hfill, -⟩ := exists_of_exec_bind h
  have hfill := of_exec_orDrop hfill
  rw [exec_bind_of_ok (exec_acquire (hextends.block? hmemory))] at hfill
  obtain ⟨hsize, hfill⟩ := of_exec_ensure_bind hfill
  obtain ⟨_, _, hload, -⟩ := exists_of_exec_bind hfill
  obtain ⟨hloaded, -, -⟩ := of_exec_load hload
  have hbacked : b.Backed s := hloaded.of_extended hextends hmemory
  rw [hsize] at hbytes halloc
  rw [hbacked.exec_detach hbytes halloc] at hdetach
  cases hdetach
  exact ⟨hbacked, rfl, _, _, rfl⟩

end Buffer

namespace Kernel

open Launch

variable {d : Direction} {t : ScalarType} {g : Grid} {n block : Nat} {s s' : Store}
  {destination indices source : Buffer}

/-! ## Operands -/

theorem of_exec_scalars_bind {α : Type} {b : Buffer} {next : List (Scalar t) → Action DeviceError α}
    {a : α} (h : exec (scalars t b >>= next) s = (.ok a, s')) :
    b.Backed s ∧ (b.offset % t.bytes = 0 ∧ b.size % t.bytes = 0) ∧
      exec (next (b.values t s)) s = (.ok a, s') := by
  obtain ⟨values, s₁, hvalues, hnext⟩ := exists_of_exec_bind h
  obtain ⟨hbacked, hlayout, rfl, rfl⟩ := of_exec_scalars hvalues
  exact ⟨hbacked, hlayout, hnext⟩

/-- An operand is used as it is, or as a snapshot that goes on holding the same, and snapshots
    leave nothing but what was written into the destination. -/
theorem of_exec_withOperand {operand : Buffer} {use : Buffer → Action DeviceError Unit}
    {memory memory' : Block} (hdestination : s.block? destination.allocation = some memory)
    (hoperand : s.block? operand.allocation = some memory')
    (h : exec (withOperand destination operand use) s = (.ok (), s')) :
    ∃ operand' s₁ s₂, s.Extends s₁ ∧ exec (use operand') s₁ = (.ok (), s₂) ∧
      (∀ s₃, s₁.Extends s₃ → operand'.Backed s₃ →
        operand.Backed s ∧ operand'.bytes s₃ = operand.bytes s) ∧
      ∀ bytes, destination.Overwritten bytes s₁ s₂ → destination.Overwritten bytes s s' := by
  unfold withOperand at h
  split at h
  next hshares =>
    obtain ⟨snapshot, s₁, hdetach, h⟩ := exists_of_exec_bind h
    obtain ⟨hbacked, rfl, address, allocators, rfl⟩ := Buffer.of_exec_detach hoperand hdetach
    obtain ⟨s₂, huse, rfl⟩ := of_exec_thenDrop h
    refine ⟨_, _, s₂, .append _ rfl, huse, fun s₃ hs₃ _ => ⟨hbacked, ?_⟩, fun bytes hwritten => ?_⟩
    · obtain ⟨hcopy, hbytes⟩ := hbacked.copy address allocators
      rw [hcopy.bytes_extends hs₃, hbytes]
    · exact hwritten.retire hdestination
  next hapart =>
    refine ⟨operand, s, s', .refl s, h, fun s₃ hs₃ hlater => ?_, fun _ hwritten => hwritten⟩
    have hbacked : operand.Backed s := hlater.of_extended hs₃ hoperand
    exact ⟨hbacked, hbacked.bytes_extends hs₃⟩

/-- A launch on operands as they are that ends well has run all items, and has written its
    result. -/
theorem of_exec_launchApart (hdtype : destination.dtype = t)
    (h : exec (launchApart d t destination indices source n block g) s = (.ok (), s')) :
    1 ≤ g.threadsPerBlock ∧ (destination.Backed s ∧ destination.LaidOut t) ∧
      indices.Backed s ∧ source.Backed s ∧
      (result d t destination indices source n block g s).finished = true ∧
      destination.Overwritten
        (Scalar.encodeAll (result d t destination indices source n block g s).values) s s' := by
  obtain ⟨blocks, hblocks, h⟩ := of_exec_checked_bind h
  have hthreads : g.threadsPerBlock ≠ 0 := by
    intro hzero
    rw [Grid.blocks?, if_pos hzero] at hblocks
    cases hblocks
  obtain ⟨hdestination, ⟨haligned, hwhole⟩, h⟩ := of_exec_scalars_bind h
  obtain ⟨hindices, -, h⟩ := of_exec_scalars_bind h
  obtain ⟨hsource, -, h⟩ := of_exec_scalars_bind h
  have hlaid : destination.LaidOut t := ⟨hdtype, haligned, hwhole⟩
  have hlength := length_encodeAll_result d indices source n block g hdestination hlaid
  simp only [result] at hlength ⊢
  simp only at h
  rw [exec_bind_of_ok (hdestination.exec_store hlength)] at h
  refine ⟨Nat.one_le_iff_ne_zero.mpr hthreads, ⟨hdestination, hlaid⟩, hindices, hsource, ?_⟩
  split at h
  next hfinished =>
    cases h
    exact ⟨hfinished, Buffer.overwritten_overwrite⟩
  next => cases h

/-! ## Launches -/

/-- What is known of a launch with items that ended well, once its operands had memory. -/
structure Launched (d : Direction) (t : ScalarType) (destination indices source : Buffer)
    (n block : Nat) (g : Grid) (ready s' : Store) : Prop where
  block_pos : 1 ≤ block
  threads_pos : 1 ≤ g.threadsPerBlock
  product_lt : n * block < Word.limit
  destination_backed : destination.Backed ready
  destination_laidOut : destination.LaidOut t
  indices_backed : indices.Backed ready
  indices_dtype : indices.dtype = .int32
  source_backed : source.Backed ready
  source_dtype : source.dtype = t
  indexed : n ≤ indices.numel
  itemized : n * block ≤ (d.itemized destination source).numel
  finished : (result d t destination indices source n block g ready).finished = true
  overwritten : destination.Overwritten
    (Scalar.encodeAll (result d t destination indices source n block g ready).values) ready s'

/-- The destination holds the result. -/
theorem Launched.values_eq {ready : Store}
    (h : Launched d t destination indices source n block g ready s') :
    destination.Backed s' ∧ destination.values t s' =
      (result d t destination indices source n block g ready).values := by
  have hlength := length_encodeAll_result d indices source n block g h.destination_backed
    h.destination_laidOut
  refine ⟨h.overwritten.backed h.destination_backed hlength, ?_⟩
  rw [Buffer.values, h.overwritten.bytes_eq h.destination_backed hlength,
    Scalar.decodeAll_encodeAll]

/-- A launch that ends well has passed its checks and written its result. -/
theorem of_exec_launch (hitems : n ≠ 0)
    (h : exec (launch d t destination indices source n block g) s = (.ok (), s')) :
    ∃ ready, exec (do destination.acquire; source.acquire; indices.acquire) s = (.ok (), ready) ∧
      Launched d t destination indices source n block g ready s' := by
  rw [launch, if_neg hitems] at h
  obtain ⟨_, s₀, hchecks, h⟩ := exists_of_exec_bind h
  obtain ⟨hsame, haccepted⟩ := of_exec_checkOperands hchecks
  rw [hsame] at h
  obtain ⟨_, s₁, hdestination, h⟩ := exists_of_exec_bind h
  obtain ⟨_, s₂, hsource, h⟩ := exists_of_exec_bind h
  obtain ⟨_, ready, hindices, h⟩ := exists_of_exec_bind h
  refine ⟨ready, ?_, ?_⟩
  · rw [exec_bind_of_ok hdestination, exec_bind_of_ok hsource, hindices]
  -- what has memory keeps it while other operands get theirs
  obtain ⟨m₁, hm₁⟩ := Store.block?_of_allocate hdestination
  obtain ⟨m₂, hm₂⟩ := Store.block?_of_allocate hsource
  obtain ⟨m₃, hm₃⟩ := Store.block?_of_allocate hindices
  have hm₁ := Store.block?_allocate hindices (Store.block?_allocate hsource hm₁)
  have hm₂ := Store.block?_allocate hindices hm₂
  obtain ⟨source', s₃, s₄, hs₃, h, hsource', hleft⟩ := of_exec_withOperand hm₁ hm₂ h
  obtain ⟨indices', s₅, s₆, hs₅, h, hindices', hleft'⟩ :=
    of_exec_withOperand (hs₃.block? hm₁) (hs₃.block? hm₃) h
  obtain ⟨hthreads, ⟨hbacked, hlaid⟩, hpositions, hvalues, hfinished, hwritten⟩ :=
    of_exec_launchApart haccepted.destination_dtype h
  have hready : destination.Backed ready := hbacked.of_extended (hs₃.trans hs₅) hm₁
  obtain ⟨hvalues, hsourceBytes⟩ := hsource' s₅ hs₅ hvalues
  obtain ⟨hpositions, hindicesBytes⟩ := hindices' s₅ (.refl s₅) hpositions
  have hpositions : indices.Backed ready := hpositions.of_extended hs₃ hm₃
  -- all operands read as they did before snapshots were made
  have hresult : result d t destination indices' source' n block g s₅ =
      result d t destination indices source n block g ready := by
    refine result_congr (hready.bytes_extends (hs₃.trans hs₅)) ?_ hsourceBytes
    rw [hindicesBytes, hpositions.bytes_extends hs₃]
  rw [hresult] at hfinished hwritten
  exact ⟨haccepted.block_pos, hthreads, haccepted.product_lt, hready, hlaid, hpositions,
    haccepted.indices_dtype, hvalues, haccepted.source_dtype, haccepted.indexed,
    haccepted.itemized, hfinished, hleft _ (hleft' _ hwritten)⟩

/-! ## Reductions -/

variable {r : Reduction} {a : Scalar t}

/-- A reduction that ends well is that of the scalars of its operand, in chunks. -/
theorem of_exec_launchReduction (h : exec (launchReduction r t source g) s = (.ok a, s')) :
    exec source.acquire s = (.ok (), s') ∧ source.Backed s' ∧ source.LaidOut t ∧
      a = r.fold ((chunks g.threadsPerBlock (source.values t s')).map r.fold) ∧
      1 ≤ g.threadsPerBlock := by
  obtain ⟨hdtype, h⟩ := of_exec_ensure_bind h
  obtain ⟨_, s₁, hacquire, h⟩ := exists_of_exec_bind h
  obtain ⟨hbacked, ⟨haligned, hwhole⟩, h⟩ := of_exec_scalars_bind h
  obtain ⟨hreduced, rfl⟩ := of_exec_checked h
  rw [Reduction.launch?] at hreduced
  split at hreduced
  next => cases hreduced
  next hthreads =>
    cases hreduced
    exact ⟨hacquire, hbacked, ⟨hdtype, haligned, hwhole⟩, rfl, Nat.one_le_iff_ne_zero.mpr hthreads⟩

/-- Once its operand has memory, a reduction runs on any grid that has threads. -/
theorem exec_launchReduction_of_acquire (hacquire : exec source.acquire s = (.ok (), s'))
    (hbacked : source.Backed s') (hlaid : source.LaidOut t) (hthreads : 1 ≤ g.threadsPerBlock) :
    exec (launchReduction r t source g) s =
      (.ok (r.fold ((chunks g.threadsPerBlock (source.values t s')).map r.fold)), s') := by
  rw [launchReduction, exec_checkType hlaid.dtype, exec_bind_of_ok hacquire,
    exec_bind_of_ok (exec_scalars hbacked hlaid), Reduction.launch?,
    if_neg (Nat.one_le_iff_ne_zero.mp hthreads)]
  rfl

theorem exec_launchReduction (hbacked : source.Backed s) (hlaid : source.LaidOut t)
    (hthreads : 1 ≤ g.threadsPerBlock) :
    exec (launchReduction r t source g) s =
      (.ok (r.fold ((chunks g.threadsPerBlock (source.values t s)).map r.fold)), s) :=
  exec_launchReduction_of_acquire hbacked.exec_acquire hbacked hlaid hthreads

end Kernel

end DeviceMemory
