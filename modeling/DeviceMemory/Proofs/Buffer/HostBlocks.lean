-- SUMMARY: Blocks of host memory in words of eight bytes behave as blocks of just the bytes in use.
import DeviceMemory.Proofs.Buffer.Contents

/-!
# Blocks in words

Host memory comes in words of eight bytes. A block of any size takes up as many as cover it,
and the bytes of the last word that are not in use are never seen: a `HostBlock` is
written and cleared as the `Block` is that its bytes in use are. So a write of zeros over
all of a block, which leaves those bytes alone, and a fill of the words with zeros, which
does not, come to the same.
-/

namespace DeviceMemory

/-- A block of host memory: the words that cover it. -/
structure HostBlock where
  address : Nat
  words : List (Scalar .int64)
  size : Nat
  covered : words.length = Word.ceilDiv size 8

namespace HostBlock

variable {offset : Nat} {bytes : List UInt8}

/-- All bytes of the words. -/
def storage (m : HostBlock) : Block := ⟨m.address, Scalar.encodeAll m.words⟩

/-- The bytes in use. -/
def toBlock (m : HostBlock) : Block := { m.storage with bytes := m.storage.bytes.take m.size }

/-- The block with every word zero. -/
def cleared (m : HostBlock) : HostBlock :=
  ⟨m.address, List.replicate m.words.length 0, m.size, List.length_replicate.trans m.covered⟩

/-! ## Sizes -/

theorem size_storage (m : HostBlock) : m.storage.size = Word.ceilDiv m.size 8 * 8 := by
  rw [storage, Block.size, Scalar.encodeAll_length, m.covered, Nat.mul_comm]
  rfl

theorem size_le_storage (m : HostBlock) : m.size ≤ m.storage.size :=
  m.size_storage ▸ Word.le_ceilDiv_mul (by decide) m.size

@[simp] theorem size_toBlock (m : HostBlock) : m.toBlock.size = m.size :=
  List.length_take_of_le m.size_le_storage

/-- The block of a given size in words with these bytes. -/
def ofStorage (storage : Block) (size : Nat) (h : storage.size = Word.ceilDiv size 8 * 8) :
    HostBlock where
  address := storage.address
  words := Scalar.decodeAll .int64 storage.bytes
  size := size
  covered := by
    rw [Scalar.decodeAll_length, ← Block.size, h]
    exact Nat.mul_div_cancel _ (by decide)

theorem storage_ofStorage {b : Block} {size : Nat} (h : b.size = Word.ceilDiv size 8 * 8) :
    (ofStorage b size h).storage = b := by
  have hwhole : b.bytes.length = Word.ceilDiv size 8 * ScalarType.bytes .int64 := h
  rw [storage, ofStorage, Scalar.encodeAll_decodeAll hwhole]

theorem toBlock_ofStorage {b : Block} {size : Nat} (h : b.size = Word.ceilDiv size 8 * 8) :
    (ofStorage b size h).toBlock = ⟨b.address, b.bytes.take size⟩ := by
  rw [toBlock, storage_ofStorage]
  rfl

/-- The block with the bytes from `offset` on replaced, if all of them are in use. -/
def write? (m : HostBlock) (offset : Nat) (bytes : List UInt8) : Option HostBlock :=
  if h : offset + bytes.length ≤ m.size then
    some (ofStorage (m.storage.overwrite offset bytes) m.size
      ((Block.size_overwrite (Nat.le_trans h m.size_le_storage)).trans m.size_storage))
  else none

/-! ## The bytes in use -/

theorem encodeAll_replicate_zero (t : ScalarType) (count : Nat) :
    Scalar.encodeAll (List.replicate count (0 : Scalar t)) =
      List.replicate (count * t.bytes) 0 := by
  have hzero : (0 : Scalar t).encode = List.replicate t.bytes 0 := by
    cases t <;> rfl
  rw [Scalar.encodeAll, List.flatMap_replicate, hzero, List.flatten_replicate_replicate]

/-- Words of zeros hold zeros. -/
theorem toBlock_of_zeros {m : HostBlock} {count : Nat} (hwords : m.words = List.replicate count 0) :
    m.toBlock = ⟨m.address, List.replicate m.size 0⟩ := by
  have hcount : m.size ≤ count * 8 := by
    have hle := m.size_le_storage
    rwa [size_storage, ← m.covered, hwords, List.length_replicate] at hle
  rw [toBlock, storage, hwords, encodeAll_replicate_zero]
  simp only [ScalarType.bytes, List.take_replicate, Nat.min_eq_left hcount]

/-- Words are cleared as the bytes in use are. -/
theorem toBlock_cleared (m : HostBlock) : m.cleared.toBlock = m.toBlock.cleared := by
  rw [toBlock_of_zeros rfl, Block.cleared, size_toBlock]
  rfl

/-- They are written as these are. -/
theorem toBlock_write? (m : HostBlock) (offset : Nat) (bytes : List UInt8) :
    (m.write? offset bytes).map toBlock = m.toBlock.write? offset bytes := by
  rw [write?, Block.write?, size_toBlock]
  split
  next hfits =>
    have hfront : offset ≤ m.size := Nat.le_trans (Nat.le_add_right ..) hfits
    have hprefix : (m.storage.bytes.take offset).length = offset :=
      List.length_take_of_le (Nat.le_trans hfront m.size_le_storage)
    have hwritten : (m.storage.bytes.take offset ++ bytes).length = offset + bytes.length := by
      rw [List.length_append, hprefix]
    rw [Option.map_some, toBlock_ofStorage]
    simp only [Block.overwrite, toBlock, List.take_take, Nat.min_eq_left hfront, List.drop_take]
    rw [List.take_append, hwritten, List.take_of_length_le (hwritten.trans_le hfits)]
  next => rfl

/-- Every block is held in words. -/
theorem exists_toBlock (block : Block) : ∃ m : HostBlock, m.toBlock = block := by
  let padding := List.replicate (Word.ceilDiv block.size 8 * 8 - block.size) (0 : UInt8)
  have hsize : (Block.mk block.address (block.bytes ++ padding)).size =
      Word.ceilDiv block.size 8 * 8 := by
    have hle := Word.le_ceilDiv_mul (Nat.zero_lt_succ 7) block.size
    rw [Block.size, List.length_append, List.length_replicate]
    exact Nat.add_sub_cancel' hle
  refine ⟨ofStorage _ block.size hsize, ?_⟩
  rw [toBlock_ofStorage]
  exact congrArg (Block.mk block.address) List.take_left

/-- Zeros written over all of a block clear it, whatever its size. -/
theorem toBlock_write?_zeros (m : HostBlock) :
    (m.write? 0 (List.replicate m.size 0)).map toBlock = some m.cleared.toBlock := by
  have hall : (List.replicate m.size (0 : UInt8)).length = m.toBlock.size := by
    rw [List.length_replicate, size_toBlock]
  rw [toBlock_write?, Block.write?_eq_overwrite (by rw [Nat.zero_add, hall]),
    Block.overwrite_all hall, toBlock_cleared, Block.cleared, size_toBlock]

end HostBlock

end DeviceMemory
