-- SUMMARY: What buffers hold: the bytes and scalars of a range, and what reading, writing and copying a range do.
import DeviceMemory.Proofs.Buffer.Balance
import DeviceMemory.Proofs.Store.Grants
import DeviceMemory.Scalar.Bytes

/-!
# Contents

`Buffer.bytes` is what a range holds in a store, and `Buffer.values` the same as
scalars. For a range inside allocated memory every operation has one outcome: it
is read as it is, a write replaces its bytes and no others, and a copy of it is a
new allocation with the same bytes.
-/

namespace DeviceMemory

/-! ## Blocks -/

namespace Block

/-- The block with the bytes from `offset` on replaced. -/
def overwrite (offset : Nat) (bytes : List UInt8) (b : Block) : Block :=
  { b with bytes := b.bytes.take offset ++ bytes ++ b.bytes.drop (offset + bytes.length) }

variable {b : Block} {offset q : Nat} {bytes : List UInt8}

theorem write?_eq_overwrite (hfits : offset + bytes.length ≤ b.size) :
    b.write? offset bytes = some (b.overwrite offset bytes) :=
  if_pos hfits

theorem size_overwrite (hfits : offset + bytes.length ≤ b.size) :
    (b.overwrite offset bytes).size = b.size :=
  size_of_write? (write?_eq_overwrite hfits)

theorem take_drop_overwrite (hfits : offset + bytes.length ≤ b.size) :
    ((b.overwrite offset bytes).bytes.drop offset).take bytes.length = bytes := by
  have hread := read?_of_write? (write?_eq_overwrite hfits)
  rw [read?, size_overwrite hfits, if_pos hfits] at hread
  exact Option.some.inj hread

/-- A write leaves the bytes outside its range as they are. -/
theorem getElem?_overwrite (hfits : offset + bytes.length ≤ b.size)
    (hq : q < offset ∨ offset + bytes.length ≤ q) :
    (b.overwrite offset bytes).bytes[q]? = b.bytes[q]? := by
  have hprefix : (b.bytes.take offset).length = offset := by
    rw [List.length_take]
    exact Nat.min_eq_left (Nat.le_trans (Nat.le_add_right ..) hfits)
  rw [overwrite]
  rcases hq with hbefore | hafter
  · rw [List.append_assoc, List.getElem?_append_left (by omega),
      List.getElem?_take_of_lt hbefore]
  · have hwritten : (b.bytes.take offset ++ bytes).length = offset + bytes.length := by
      rw [List.length_append, hprefix]
    rw [List.getElem?_append_right (by omega), List.getElem?_drop, hwritten,
      Nat.add_sub_cancel' hafter]

/-- A write of a whole block leaves nothing of it but its address. -/
theorem overwrite_all (hall : bytes.length = b.size) :
    b.overwrite 0 bytes = ⟨b.address, bytes⟩ := by
  have hrest : b.bytes.drop bytes.length = [] := List.drop_eq_nil_of_le (Nat.le_of_eq hall.symm)
  simp [overwrite, hrest]

end Block

/-- The allocation with the bytes from `offset` on replaced, if it has memory. -/
def Allocation.overwrite (offset : Nat) (bytes : List UInt8) (a : Allocation) : Allocation :=
  { a with block := a.block.map (·.overwrite offset bytes) }

/-! ## Actions that go on -/

namespace Action

variable {ε α β : Type} {s : Store}

/-- A sequence with a result has results of both its parts. -/
theorem exists_of_exec_bind {act : Action ε α} {next : α → Action ε β} {b : β} {s' : Store}
    (h : exec (act >>= next) s = (.ok b, s')) :
    ∃ a s₁, exec act s = (.ok a, s₁) ∧ exec (next a) s₁ = (.ok b, s') := by
  rw [exec_bind] at h
  rcases hact : exec act s with ⟨(fault | a), s₁⟩
  · rw [hact] at h
    cases h
  · rw [hact] at h
    exact ⟨a, s₁, rfl, h⟩

/-- Sequences agree that go on alike from every result. -/
theorem exec_bind_congr {act : Action ε α} {next next' : α → Action ε β}
    (h : ∀ a s', exec act s = (.ok a, s') → exec (next a) s' = exec (next' a) s') :
    exec (act >>= next) s = exec (act >>= next') s := by
  rw [exec_bind, exec_bind]
  split
  next a s' hact => exact h a s' hact
  next => rfl

theorem exec_checked_bind {value : Option α} {a : α} (hvalue : value = some a)
    (next : α → Action ε β) : exec (checked value >>= next) s = exec (next a) s := by
  subst hvalue
  exact exec_bind_of_ok rfl

theorem exec_ensure_bind {condition : Prop} [Decidable condition] (h : condition) (cause : ε)
    (next : Unit → Action ε β) : exec (ensure condition cause >>= next) s = exec (next ()) s := by
  refine exec_bind_of_ok ?_
  rw [exec_ensure, if_pos h]

theorem exec_ensure_bind_of_not {condition : Prop} [Decidable condition] (h : ¬condition)
    (cause : ε) (next : Unit → Action ε β) :
    exec (ensure condition cause >>= next) s = (.error (.error cause), s) := by
  refine exec_bind_of_error ?_
  rw [exec_ensure, if_neg h]

theorem exec_orDrop_of_ok {act : Action ε α} {a : α} {s' : Store} (h : exec act s = (.ok a, s'))
    (id : AllocationId) : exec (act.orDrop id) s = (.ok a, s') := by
  rw [orDrop, exec_of, h]

theorem exec_thenDrop {act : Action ε α} {outcome : Except (Fault ε) α} {s' : Store}
    (h : exec act s = (outcome, s')) (id : AllocationId) :
    exec (act.thenDrop id) s = (outcome, s'.dropHandle id) := by
  rw [thenDrop, exec_of, h]

/-! What a result says of the action that has it. -/

theorem of_exec_checked {value : Option α} {a : α} {s' : Store}
    (h : exec (checked value : Action ε α) s = (.ok a, s')) : value = some a ∧ s' = s := by
  rw [exec_checked] at h
  cases value with
  | none => cases h
  | some found =>
    cases h
    exact ⟨rfl, rfl⟩

theorem of_exec_ensure {condition : Prop} [Decidable condition] {cause : ε} {s' : Store}
    (h : exec (ensure condition cause) s = (.ok (), s')) : condition ∧ s' = s := by
  rw [exec_ensure] at h
  split at h
  next hcondition =>
    cases h
    exact ⟨hcondition, rfl⟩
  next => cases h

theorem of_exec_checked_bind {value : Option α} {next : α → Action ε β} {b : β} {s' : Store}
    (h : exec (checked value >>= next) s = (.ok b, s')) :
    ∃ a, value = some a ∧ exec (next a) s = (.ok b, s') := by
  obtain ⟨a, s₁, hchecked, hnext⟩ := exists_of_exec_bind h
  obtain ⟨hvalue, rfl⟩ := of_exec_checked hchecked
  exact ⟨a, hvalue, hnext⟩

theorem of_exec_ensure_bind {condition : Prop} [Decidable condition] {cause : ε}
    {next : Unit → Action ε β} {b : β} {s' : Store}
    (h : exec (ensure condition cause >>= next) s = (.ok b, s')) :
    condition ∧ exec (next ()) s = (.ok b, s') := by
  obtain ⟨_, s₁, hensure, hnext⟩ := exists_of_exec_bind h
  obtain ⟨hcondition, rfl⟩ := of_exec_ensure hensure
  exact ⟨hcondition, hnext⟩

theorem of_exec_orDrop {act : Action ε α} {a : α} {id : AllocationId} {s' : Store}
    (h : exec (act.orDrop id) s = (.ok a, s')) : exec act s = (.ok a, s') := by
  rw [orDrop, exec_of] at h
  rcases hact : exec act s with ⟨fault | found, s₁⟩
  · rw [hact] at h
    cases h
  · rw [hact] at h
    exact h

theorem of_exec_thenDrop {act : Action ε α} {outcome : Except (Fault ε) α} {id : AllocationId}
    {s' : Store} (h : exec (act.thenDrop id) s = (outcome, s')) :
    ∃ s₁, exec act s = (outcome, s₁) ∧ s' = s₁.dropHandle id := by
  rw [thenDrop, exec_of] at h
  rcases hact : exec act s with ⟨found, s₁⟩
  rw [hact] at h
  cases h
  exact ⟨s₁, rfl, rfl⟩

/-! What a cause of failure says of the action that fails with it. -/

/-- A checked value is there, or the sequence stops without a cause. -/
theorem of_exec_checked_bind_error {value : Option α} {next : α → Action ε β} {cause : ε}
    {s' : Store}
    (h : exec (checked value >>= next) s = (.error (.error cause), s')) :
    ∃ a, value = some a ∧ exec (next a) s = (.error (.error cause), s') := by
  cases value with
  | none => cases h
  | some a => exact ⟨a, rfl, (exec_checked_bind rfl next).symm.trans h⟩

/-- A sequence fails at its condition or behind it. -/
theorem of_exec_ensure_bind_error {condition : Prop} [Decidable condition] {refusal cause : ε}
    {next : Unit → Action ε β} {s' : Store}
    (h : exec (ensure condition refusal >>= next) s = (.error (.error cause), s')) :
    ¬condition ∧ cause = refusal ∧ s' = s ∨
      condition ∧ exec (next ()) s = (.error (.error cause), s') := by
  by_cases hcondition : condition
  · exact .inr ⟨hcondition, (exec_ensure_bind hcondition refusal next).symm.trans h⟩
  · rw [exec_ensure_bind_of_not hcondition] at h
    cases h
    exact .inl ⟨hcondition, rfl, rfl⟩

end Action

/-! ## Memory of a store -/

namespace Store

variable {s s' : Store} {id : AllocationId}

/-- The memory of an allocation, which has no bytes before its first use. -/
def bytes (id : AllocationId) (s : Store) : List UInt8 :=
  ((s.block? id).map Block.bytes).getD []

theorem bytes_of_block? {block : Block} (hblock : s.block? id = some block) :
    s.bytes id = block.bytes := by
  rw [bytes, hblock]
  rfl

/-- The first allocations of one store are those of the other. -/
def Extends (s s' : Store) : Prop := s.allocations <+: s'.allocations

theorem Extends.refl (s : Store) : s.Extends s := List.prefix_rfl

theorem Extends.append (extra : List Allocation)
    (hextra : s'.allocations = s.allocations ++ extra) : s.Extends s' :=
  ⟨extra, hextra.symm⟩

theorem Extends.trans {s'' : Store} (hs : s.Extends s') (hs' : s'.Extends s'') : s.Extends s'' :=
  List.IsPrefix.trans hs hs'

theorem Extends.getElem? (hs : s.Extends s') {a : Allocation} (ha : s.allocations[id]? = some a) :
    s'.allocations[id]? = some a := by
  obtain ⟨extra, hextra⟩ := hs
  rw [← hextra, List.getElem?_append_left (List.getElem?_eq_some_iff.mp ha).1, ha]

theorem Extends.block? (hs : s.Extends s') {block : Block} (hblock : s.block? id = some block) :
    s'.block? id = some block := by
  obtain ⟨a, ha, hab⟩ := Buffer.exists_of_block? hblock
  rw [Store.block?, hs.getElem? ha, Option.bind_some, hab]

/-- Memory on first use is no other memory. -/
theorem block?_allocate {i : AllocationId} {block : Block} (hs : s.allocate i = (.ok (), s'))
    (hblock : s.block? id = some block) : s'.block? id = some block := by
  simp only [allocate] at hs
  split at hs
  next => cases hs
  next a ha =>
    split at hs
    next =>
      cases hs
      exact hblock
    next hnone =>
      split at hs
      next => cases hs
      next granted s₁ halloc =>
        cases hs
        have hne : i ≠ id := by
          rintro rfl
          rw [block?, ha, Option.bind_some, hnone] at hblock
          cases hblock
        have hsame : s₁.allocations = s.allocations := by rw [eq_of_alloc halloc]
        rw [block?, setAllocation, List.getElem?_set_ne hne, hsame]
        exact hblock

/-- After its first use an allocation has memory. -/
theorem block?_of_allocate (hs : s.allocate id = (.ok (), s')) :
    ∃ block, s'.block? id = some block := by
  simp only [allocate] at hs
  split at hs
  next => cases hs
  next a ha =>
    split at hs
    next block hblock =>
      cases hs
      exact ⟨block, by rw [block?, ha, Option.bind_some, hblock]⟩
    next =>
      split at hs
      next => cases hs
      next granted s₁ halloc =>
        cases hs
        have hsame : s₁.allocations = s.allocations := by rw [eq_of_alloc halloc]
        have hlt : id < s₁.allocations.length := hsame ▸ (List.getElem?_eq_some_iff.mp ha).1
        refine ⟨granted, ?_⟩
        rw [block?, setAllocation, List.getElem?_set_self hlt]
        rfl

/-- The last handle takes the memory with it. -/
theorem allocations_dropHandle {a : Allocation} (ha : s.allocations[id]? = some a)
    (hlast : a.handles ≤ 1) :
    (s.dropHandle id).allocations =
      s.allocations.set id { a with handles := 0, block := none } := by
  rw [dropHandle, ha]
  simp only
  rw [if_neg (Nat.not_lt.mpr hlast)]
  cases a.block with
  | none => rfl
  | some block =>
    simp only [free, giveBack]
    split <;> rfl

end Store

/-! ## Ranges -/

namespace Buffer

variable {s s' : Store} {b : Buffer} {t : ScalarType}

/-- The bytes of the range. -/
def bytes (b : Buffer) (s : Store) : List UInt8 :=
  ((s.bytes b.allocation).drop b.offset).take b.size

/-- The scalars of the range. -/
def values (t : ScalarType) (b : Buffer) (s : Store) : List (Scalar t) :=
  Scalar.decodeAll t (b.bytes s)

/-- The range lies in allocated memory. -/
def Backed (b : Buffer) (s : Store) : Prop :=
  ∃ block, s.block? b.allocation = some block ∧ b.offset + b.size ≤ block.size

/-- The range lies in allocated memory, of a size that fits in a word. -/
def Inside (b : Buffer) (s : Store) : Prop :=
  ∃ block, s.block? b.allocation = some block ∧ b.offset + b.size ≤ block.size ∧
    block.size < Word.limit

/-- The range holds whole, aligned scalars of a type, and is read as such. -/
structure LaidOut (t : ScalarType) (b : Buffer) : Prop where
  dtype : b.dtype = t
  aligned : b.offset % t.bytes = 0
  whole : b.size % t.bytes = 0

/-- The range lies in allocated memory and is read as scalars of a type. -/
structure Readable (t : ScalarType) (b : Buffer) (s : Store) : Prop where
  inside : b.Inside s
  laidOut : b.LaidOut t

/-! What a range holds depends on its memory alone. -/

theorem Backed.of_kept (hb : b.Backed s)
    (hkept : ∀ block, s.block? b.allocation = some block → s'.block? b.allocation = some block) :
    b.Backed s' := by
  obtain ⟨block, hblock, hfits⟩ := hb
  exact ⟨block, hkept block hblock, hfits⟩

theorem Backed.bytes_kept (hb : b.Backed s)
    (hkept : ∀ block, s.block? b.allocation = some block → s'.block? b.allocation = some block) :
    b.bytes s' = b.bytes s := by
  obtain ⟨block, hblock, -⟩ := hb
  rw [bytes, bytes, Store.bytes_of_block? hblock, Store.bytes_of_block? (hkept block hblock)]

theorem Backed.values_kept (hb : b.Backed s)
    (hkept : ∀ block, s.block? b.allocation = some block → s'.block? b.allocation = some block) :
    b.values t s' = b.values t s := by
  rw [values, values, hb.bytes_kept hkept]

theorem Backed.bytes_extends (hs : s.Extends s') (hb : b.Backed s) : b.bytes s' = b.bytes s :=
  hb.bytes_kept fun _ => hs.block?

/-- A range that lies in memory did so since its allocation has memory. -/
theorem Backed.of_extended (hb : b.Backed s') (hs : s.Extends s') {memory : Block}
    (hmemory : s.block? b.allocation = some memory) : b.Backed s := by
  obtain ⟨block, hblock, hfits⟩ := hb
  rw [hs.block? hmemory] at hblock
  cases hblock
  exact ⟨memory, hmemory, hfits⟩

theorem Backed.allocator_extends (hs : s.Extends s') (hb : b.Backed s) :
    b.allocator s' = b.allocator s := by
  obtain ⟨block, hblock, -⟩ := hb
  obtain ⟨a, ha, -⟩ := exists_of_block? hblock
  rw [allocator, allocator, ha, hs.getElem? ha]

theorem Backed.length_bytes (hb : b.Backed s) : (b.bytes s).length = b.size := by
  obtain ⟨block, hblock, hfits⟩ := hb
  have hlength : b.offset + b.size ≤ block.bytes.length := hfits
  rw [bytes, Store.bytes_of_block? hblock, List.length_take, List.length_drop]
  omega

theorem Backed.length_values (hb : b.Backed s) (hdtype : b.dtype = t) :
    (b.values t s).length = b.numel := by
  rw [values, Scalar.decodeAll_length, hb.length_bytes, numel, hdtype]

theorem Inside.backed (hb : b.Inside s) : b.Backed s := by
  obtain ⟨block, hblock, hfits, -⟩ := hb
  exact ⟨block, hblock, hfits⟩

theorem Inside.of_extends (hs : s.Extends s') (hb : b.Inside s) : b.Inside s' := by
  obtain ⟨block, hblock, hfits, hword⟩ := hb
  exact ⟨block, hs.block? hblock, hfits, hword⟩

theorem Inside.size_lt (hb : b.Inside s) : b.size < Word.limit := by
  obtain ⟨block, -, hfits, hword⟩ := hb
  exact Nat.lt_of_le_of_lt (Nat.le_trans (Nat.le_add_left ..) hfits) hword

theorem Readable.backed (hb : b.Readable t s) : b.Backed s :=
  hb.inside.backed

theorem Readable.length_values (hb : b.Readable t s) : (b.values t s).length = b.numel :=
  hb.backed.length_values hb.laidOut.dtype

theorem LaidOut.numel_mul (hlaid : b.LaidOut t) : t.bytes * b.numel = b.size := by
  rw [numel, hlaid.dtype]
  exact Nat.mul_div_cancel' (Nat.dvd_of_mod_eq_zero hlaid.whole)

/-! ## Reading and writing -/

open DeviceMemory.Action

theorem exec_acquire {block : Block} (hblock : s.block? b.allocation = some block) :
    exec b.acquire s = (.ok (), s) := by
  obtain ⟨a, ha, hab⟩ := exists_of_block? hblock
  rw [acquire, exec_of, Store.allocate, ha]
  simp only
  rw [hab]

theorem Backed.exec_acquire (hb : b.Backed s) : exec b.acquire s = (.ok (), s) := by
  obtain ⟨block, hblock, -⟩ := hb
  exact Buffer.exec_acquire hblock

theorem Backed.exec_load (hb : b.Backed s) : exec b.load s = (.ok (b.bytes s), s) := by
  obtain ⟨block, hblock, hfits⟩ := hb
  have hread : block.read? b.offset b.size = some (b.bytes s) := by
    rw [bytes, Store.bytes_of_block? hblock]
    exact if_pos hfits
  rw [Buffer.exec_load, hblock]
  simp only
  rw [hread]
  rfl

/-- Only a range that lies in memory is read. -/
theorem of_exec_load {bytes : List UInt8} (h : exec b.load s = (.ok bytes, s')) :
    b.Backed s ∧ bytes = b.bytes s ∧ s' = s := by
  have hbacked : b.Backed s := by
    rw [Buffer.exec_load] at h
    split at h
    next => cases h
    next block hblock =>
      obtain ⟨hread, -⟩ := of_exec_checked h
      rw [Block.read?] at hread
      split at hread
      next hfits => exact ⟨block, hblock, hfits⟩
      next => cases hread
  rw [hbacked.exec_load] at h
  cases h
  exact ⟨hbacked, rfl, rfl⟩

/-- The store after other bytes were written into the range. -/
def overwrite (b : Buffer) (bytes : List UInt8) (s : Store) : Store :=
  { s with
    allocations := s.allocations.modify b.allocation (Allocation.overwrite b.offset bytes) }

theorem Backed.exec_store {bytes : List UInt8} (hb : b.Backed s) (hlength : bytes.length = b.size) :
    exec (b.store bytes) s = (.ok (), b.overwrite bytes s) := by
  obtain ⟨block, hblock, hfits⟩ := hb
  obtain ⟨a, ha, hab⟩ := exists_of_block? hblock
  have hwrite : block.write? b.offset bytes = some (block.overwrite b.offset bytes) :=
    Block.write?_eq_overwrite (hlength ▸ hfits)
  have hnew : Allocation.overwrite b.offset bytes a =
      { a with block := some (block.overwrite b.offset bytes) } := by
    rw [Allocation.overwrite, hab]
    rfl
  rw [Buffer.exec_store, hblock]
  simp only
  rw [exec_checked_bind hwrite, exec_setBlock ha, overwrite, Store.setAllocation,
    Entries.modify_eq_set ha, hnew]

theorem Backed.read_eq (hb : b.Backed s) {size : Nat} (hsize : b.size = size) :
    exec (b.read size) s = (.ok (b.bytes s), s) := by
  rw [read, exec_bind_of_ok hb.exec_acquire, exec_ensure_bind hsize, hb.exec_load]

theorem Backed.write_eq {bytes : List UInt8} (hb : b.Backed s) (hlength : b.size = bytes.length) :
    exec (b.write bytes) s = (.ok (), b.overwrite bytes s) := by
  rw [write, exec_bind_of_ok hb.exec_acquire, exec_ensure_bind hlength,
    hb.exec_store hlength.symm]

/-- Memory is cleared at once where the range is all of it. -/
theorem exec_zero_whole {block : Block} {a : Allocation}
    (ha : s.allocations[b.allocation]? = some a) (hab : a.block = some block)
    (hwhole : b.offset = 0 ∧ b.size = block.size) :
    exec b.zero s =
      (.ok (), s.setAllocation b.allocation { a with block := some block.cleared }) := by
  have hblock : s.block? b.allocation = some block := by
    rw [Store.block?, ha, Option.bind_some, hab]
  rw [zero, exec_bind_of_ok (exec_acquire hblock), exec_bind, exec_read, hblock]
  simp only
  rw [if_pos hwhole, exec_setBlock ha]

/-- Zeros are written, whichever way the range is zeroed. -/
theorem Backed.zero_eq (hb : b.Backed s) :
    exec b.zero s = (.ok (), b.overwrite (List.replicate b.size 0) s) := by
  obtain ⟨block, hblock, -⟩ := id hb
  obtain ⟨a, ha, hab⟩ := exists_of_block? hblock
  by_cases hwhole : b.offset = 0 ∧ b.size = block.size
  · have hzeros : Allocation.overwrite b.offset (List.replicate b.size 0) a =
        { a with block := some block.cleared } := by
      rw [Allocation.overwrite, hab, Option.map_some, hwhole.1, hwhole.2,
        Block.overwrite_all List.length_replicate, Block.cleared]
    rw [exec_zero_whole ha hab hwhole, overwrite, Entries.modify_eq_set ha, hzeros,
      Store.setAllocation]
  · rw [zero, exec_bind_of_ok hb.exec_acquire, exec_bind_of_ok (exec_read ..), hblock]
    simp only
    rw [if_neg hwhole, hb.exec_store List.length_replicate]

/-! ## Copies -/

theorem byteSize?_numel (hwhole : b.size % b.dtype.bytes = 0) (hword : b.size < Word.limit) :
    byteSize? b.dtype [b.numel] = some b.size := by
  have hsize : b.dtype.bytes * b.numel = b.size :=
    Nat.mul_div_cancel' (Nat.dvd_of_mod_eq_zero hwhole)
  have hnumel : 1 * b.numel < Word.limit := by
    rw [Nat.one_mul]
    exact Nat.lt_of_le_of_lt (Nat.div_le_self ..) hword
  have hproduct : Word.product? [b.numel] = some b.numel := by
    change (Word.mul? 1 b.numel).bind some = some b.numel
    rw [Word.mul?_eq_some_iff.mpr ⟨hnumel, rfl⟩, Option.bind_some, Nat.one_mul]
  rw [byteSize?, hproduct, Option.bind_some]
  exact Word.mul?_eq_some_iff.mpr ⟨hsize.symm ▸ hword, hsize.symm⟩

/-- The store after an allocation was made that has memory from the beginning. -/
def provided (allocator : AllocatorId) (size : Nat) (zeroed : Bool) (block : Block)
    (allocators : List Stack) (s : Store) : Store :=
  { s with
    allocators := allocators
    allocations := s.allocations ++ [⟨allocator, size, zeroed, 1, some block⟩] }

theorem allocate_addAllocation {allocator : AllocatorId} {size : Nat} {zeroed : Bool}
    {block : Block} (halloc : s.alloc allocator size zeroed = (.ok block, s')) :
    (s.addAllocation allocator size zeroed).2.allocate s.allocations.length =
      (.ok (), provided allocator size zeroed block s'.allocators s) := by
  have hfresh : (s.addAllocation allocator size zeroed).2.allocations[s.allocations.length]? =
      some ⟨allocator, size, zeroed, 1, none⟩ := List.getElem?_concat_length
  have hgrant : (s.addAllocation allocator size zeroed).2.alloc allocator size zeroed =
      (.ok block, { (s.addAllocation allocator size zeroed).2 with
        allocators := s'.allocators }) :=
    Store.alloc_of_allocators_eq (s := s) rfl halloc
  rw [Store.allocate, hfresh]
  simp only
  rw [hgrant]
  simp [Store.setAllocation, Store.addAllocation, provided]

/-- A new allocation without memory, for a buffer of a given shape. -/
theorem exec_create {shape : List Nat} {size : Nat} (hsize : byteSize? t shape = some size)
    (allocator : AllocatorId) (zeroed : Bool) (s : Store) :
    exec (create allocator t shape zeroed : Action DeviceError Buffer) s =
      (.ok (whole s.allocations.length size t shape),
        (s.addAllocation allocator size zeroed).2) := by
  rw [create, exec_checked_bind hsize]
  rfl

/-- New memory for a buffer of a given shape. -/
theorem exec_allocate {allocator : AllocatorId} {shape : List Nat} {zeroed : Bool} {size : Nat}
    {block : Block} (hsize : byteSize? t shape = some size)
    (halloc : s.alloc allocator size zeroed = (.ok block, s')) :
    exec (allocate allocator t shape zeroed) s =
      (.ok (whole s.allocations.length size t shape),
        provided allocator size zeroed block s'.allocators s) := by
  have hacquire : exec (whole s.allocations.length size t shape).acquire
      (s.addAllocation allocator size zeroed).2 =
        (.ok (), provided allocator size zeroed block s'.allocators s) :=
    allocate_addAllocation halloc
  rw [allocate, exec_bind_of_ok (exec_create hsize allocator zeroed s),
    exec_bind_of_ok (exec_orDrop_of_ok hacquire _), exec_pure]

theorem block?_provided (allocator : AllocatorId) (size : Nat) (zeroed : Bool) (block : Block)
    (allocators : List Stack) (s : Store) :
    (provided allocator size zeroed block allocators s).block? s.allocations.length =
      some block := by
  rw [Store.block?, provided, List.getElem?_concat_length]
  rfl

theorem backed_provided {allocator : AllocatorId} {shape : List Nat} {zeroed : Bool} {size : Nat}
    {block : Block} {allocators : List Stack} (hsize : block.size = size) :
    (whole s.allocations.length size t shape).Backed
      (provided allocator size zeroed block allocators s) :=
  ⟨block, block?_provided .., by rw [hsize]; exact Nat.le_of_eq (Nat.zero_add size)⟩

theorem overwrite_provided {allocator : AllocatorId} {shape : List Nat} {zeroed : Bool}
    {size : Nat} {block : Block} {allocators : List Stack} {bytes : List UInt8}
    (hbytes : bytes.length = block.size) :
    (whole s.allocations.length size t shape).overwrite bytes
        (provided allocator size zeroed block allocators s) =
      provided allocator size zeroed ⟨block.address, bytes⟩ allocators s := by
  have hnew : Allocation.overwrite 0 bytes ⟨allocator, size, zeroed, 1, some block⟩ =
      ⟨allocator, size, zeroed, 1, some ⟨block.address, bytes⟩⟩ := by
    rw [Allocation.overwrite, Option.map_some, Block.overwrite_all hbytes]
  rw [overwrite, whole, provided, Entries.modify_eq_set List.getElem?_concat_length, hnew]
  simp [provided]

/-- A copy of whole scalars is a new allocation with the bytes of the range. -/
theorem Backed.exec_detach {block : Block} (hb : b.Backed s)
    (hbytes : byteSize? b.dtype [b.numel] = some b.size)
    (halloc : s.alloc (b.allocator s) b.size false = (.ok block, s')) :
    exec b.detach s =
      (.ok (whole s.allocations.length b.size b.dtype [b.numel]),
        provided (b.allocator s) b.size false ⟨block.address, b.bytes s⟩ s'.allocators s) := by
  have hallocate := exec_allocate hbytes halloc
  have hsize : block.size = b.size := Store.size_of_alloc halloc
  have hextends : s.Extends (provided (b.allocator s) b.size false block s'.allocators s) :=
    .append _ rfl
  have hfill : exec (do
        b.acquire
        ensure (b.size = b.size) (.sizeMismatch b.size b.size)
        (whole s.allocations.length b.size b.dtype [b.numel]).store (← b.load))
      (provided (b.allocator s) b.size false block s'.allocators s) =
        (.ok (),
          provided (b.allocator s) b.size false ⟨block.address, b.bytes s⟩ s'.allocators s) := by
    have hbacked := hb.of_kept fun _ => hextends.block?
    rw [exec_bind_of_ok hbacked.exec_acquire, exec_ensure_bind rfl,
      exec_bind_of_ok hbacked.exec_load, hb.bytes_extends hextends,
      (backed_provided hsize).exec_store hb.length_bytes,
      overwrite_provided (hb.length_bytes.trans hsize.symm)]
  rw [detach, exec_bind_of_ok (exec_read ..), exec_bind_of_ok hallocate]
  exact exec_bind_of_ok (exec_orDrop_of_ok hfill _)

/-- A copy holds what the range that was copied held. -/
theorem Backed.copy (hb : b.Backed s) (address : Nat) (allocators : List Stack) :
    (whole s.allocations.length b.size b.dtype [b.numel]).Backed
        (provided (b.allocator s) b.size false ⟨address, b.bytes s⟩ allocators s) ∧
      (whole s.allocations.length b.size b.dtype [b.numel]).bytes
          (provided (b.allocator s) b.size false ⟨address, b.bytes s⟩ allocators s) =
        b.bytes s := by
  refine ⟨backed_provided hb.length_bytes, ?_⟩
  rw [bytes, whole, Store.bytes_of_block? (block?_provided ..), List.drop_zero,
    List.take_of_length_le (Nat.le_of_eq hb.length_bytes)]

/-! ## What a write leaves -/

/-- The second store is the first one after bytes were written into the range, and after
    some allocations came that no one holds any more. -/
def Overwritten (b : Buffer) (bytes : List UInt8) (s s' : Store) : Prop :=
  ∃ retired : List Allocation, (∀ a ∈ retired, a.handles = 0 ∧ a.block = none) ∧
    s'.allocations =
      s.allocations.modify b.allocation (Allocation.overwrite b.offset bytes) ++ retired

variable {bytes : List UInt8} {id : AllocationId}

theorem overwritten_overwrite : b.Overwritten bytes s (b.overwrite bytes s) :=
  ⟨[], by simp, (List.append_nil _).symm⟩

namespace Overwritten

theorem getElem? (hs : b.Overwritten bytes s s') {a : Allocation}
    (ha : s.allocations[id]? = some a) :
    s'.allocations[id]? =
      some (if b.allocation = id then a.overwrite b.offset bytes else a) := by
  obtain ⟨retired, -, hs⟩ := hs
  have hlt : id < s.allocations.length := (List.getElem?_eq_some_iff.mp ha).1
  rw [hs, List.getElem?_append_left (by rwa [List.length_modify]), List.getElem?_modify, ha]
  split <;> rfl

/-- What was no allocation before has neither handles nor memory. -/
theorem of_none (hs : b.Overwritten bytes s s') (hnone : s.allocations[id]? = none) :
    s'.handles id = 0 ∧ s'.block? id = none := by
  obtain ⟨retired, hretired, hs⟩ := hs
  have hle : s.allocations.length ≤ id := List.getElem?_eq_none_iff.mp hnone
  rw [Store.handles, Store.block?, hs, List.getElem?_append_right (by rwa [List.length_modify])]
  cases hentry : retired[id - _]? with
  | none => exact ⟨rfl, rfl⟩
  | some a => exact hretired a (List.mem_of_getElem? hentry)

/-- Handles are as many as before, -/
theorem handles (hs : b.Overwritten bytes s s') (id : AllocationId) :
    s'.handles id = s.handles id := by
  cases ha : s.allocations[id]? with
  | none => rw [(hs.of_none ha).1, Store.handles, ha, Option.map_none, Option.getD_none]
  | some a =>
    rw [Store.handles, Store.handles, hs.getElem? ha, ha]
    split <;> rfl

/-- and other allocations have the memory from before. -/
theorem block?_of_ne (hs : b.Overwritten bytes s s') (hid : id ≠ b.allocation) :
    s'.block? id = s.block? id := by
  cases ha : s.allocations[id]? with
  | none => rw [(hs.of_none ha).2, Store.block?, ha, Option.bind_none]
  | some a => rw [Store.block?, Store.block?, hs.getElem? ha, ha, if_neg (Ne.symm hid)]

theorem block? (hs : b.Overwritten bytes s s') {block : Block}
    (hblock : s.block? b.allocation = some block) :
    s'.block? b.allocation = some (block.overwrite b.offset bytes) := by
  obtain ⟨a, ha, hab⟩ := exists_of_block? hblock
  rw [Store.block?, hs.getElem? ha, if_pos rfl, Option.bind_some, Allocation.overwrite, hab]
  rfl

theorem backed (hs : b.Overwritten bytes s s') (hb : b.Backed s)
    (hlength : bytes.length = b.size) : b.Backed s' := by
  obtain ⟨block, hblock, hfits⟩ := hb
  refine ⟨_, hs.block? hblock, ?_⟩
  rw [Block.size_overwrite (hlength ▸ hfits)]
  exact hfits

/-- The range holds what was written. -/
theorem bytes_eq (hs : b.Overwritten bytes s s') (hb : b.Backed s)
    (hlength : bytes.length = b.size) : b.bytes s' = bytes := by
  obtain ⟨block, hblock, hfits⟩ := hb
  rw [Buffer.bytes, Store.bytes_of_block? (hs.block? hblock), ← hlength]
  exact Block.take_drop_overwrite (hlength ▸ hfits)

/-- The rest of its allocation holds what it held. -/
theorem getElem?_bytes (hs : b.Overwritten bytes s s') (hb : b.Backed s)
    (hlength : bytes.length = b.size) {q : Nat} (hq : q < b.offset ∨ b.offset + b.size ≤ q) :
    (s'.bytes b.allocation)[q]? = (s.bytes b.allocation)[q]? := by
  obtain ⟨block, hblock, hfits⟩ := hb
  rw [Store.bytes_of_block? (hs.block? hblock), Store.bytes_of_block? hblock]
  exact Block.getElem?_overwrite (hlength ▸ hfits) (hlength ▸ hq)

/-- Through another range of its allocation, what was written is seen where the ranges overlap, and
    what was there is seen elsewhere. -/
theorem getElem?_bytes_of_shared (hs : b.Overwritten bytes s s') (hb : b.Backed s)
    (hlength : bytes.length = b.size) {w : Buffer} (hw : w.allocation = b.allocation) {j : Nat}
    (hj : j < w.size) :
    (w.bytes s')[j]? =
      if b.offset ≤ w.offset + j ∧ w.offset + j < b.offset + b.size then
        bytes[w.offset + j - b.offset]?
      else (w.bytes s)[j]? := by
  rw [Buffer.bytes, Buffer.bytes, List.getElem?_take_of_lt hj, List.getElem?_take_of_lt hj,
    List.getElem?_drop, List.getElem?_drop, hw]
  split
  next hoverlap =>
    obtain ⟨k, hk⟩ := Nat.exists_eq_add_of_le hoverlap.1
    have hinside : k < b.size := by omega
    rw [hk, Nat.add_sub_cancel_left]
    conv_rhs => rw [← hs.bytes_eq hb hlength]
    rw [Buffer.bytes, List.getElem?_take_of_lt hinside, List.getElem?_drop]
  next hoverlap => exact hs.getElem?_bytes hb hlength (by omega)

/-- A copy that was made before and is dropped afterwards is retired. -/
theorem retire {allocator : AllocatorId} {size : Nat} {zeroed : Bool} {block : Block}
    {allocators : List Stack}
    (hs : b.Overwritten bytes (provided allocator size zeroed block allocators s) s')
    {memory : Block} (hmemory : s.block? b.allocation = some memory) :
    b.Overwritten bytes s (s'.dropHandle s.allocations.length) := by
  obtain ⟨a, ha, -⟩ := exists_of_block? hmemory
  have hlt : b.allocation < s.allocations.length := (List.getElem?_eq_some_iff.mp ha).1
  have hextends : s.Extends (provided allocator size zeroed block allocators s) := .append _ rfl
  -- the write was to another allocation, so the copy still has its one handle
  have hcopy : s'.allocations[s.allocations.length]? =
      some (if b.allocation = s.allocations.length then _ else _) :=
    hs.getElem? List.getElem?_concat_length
  rw [if_neg (Nat.ne_of_lt hlt)] at hcopy
  obtain ⟨retired, hretired, hs⟩ := hs
  refine ⟨⟨allocator, size, zeroed, 0, none⟩ :: retired, ?_, ?_⟩
  · simpa using hretired
  · rw [Store.allocations_dropHandle hcopy (Nat.le_refl 1), hs,
      Entries.modify_eq_set (hextends.getElem? ha), Entries.modify_eq_set ha, provided,
      List.set_append_left _ _ hlt, List.append_assoc,
      List.set_append_right _ _ (by rw [List.length_set]), List.length_set, Nat.sub_self]
    rfl

end Overwritten

end Buffer

end DeviceMemory
