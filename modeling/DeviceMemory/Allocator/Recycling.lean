-- SUMMARY: A layer that parks freed blocks and hands them out again to requests of the same size.
import DeviceMemory.Allocator.Basic

/-!
# Recycling allocators

A recycling allocator parks up to `capacity` freed blocks of each exact size and
serves a request from the block of that size parked last. When the allocator
below refuses a request, every parked block goes back to it and the request is
made once more; the refusal reported is the first.

The parked blocks are one list, the block parked last in front. The blocks of
one size form a stack in it (`ofSize`).
-/

namespace DeviceMemory

/-! ## Parked blocks -/

namespace Parked

/-- The parked blocks of one size, the one parked last in front. -/
def ofSize (size : Nat) (parked : List Block) : List Block :=
  parked.filter (·.size = size)

/-- The block of a size that was parked last, and the others. -/
def take? (size : Nat) : List Block → Option (Block × List Block)
  | [] => none
  | b :: rest =>
    if b.size = size then some (b, rest)
    else (take? size rest).map fun (found, others) => (found, b :: others)

theorem take?_eq_none_iff {size : Nat} {parked : List Block} :
    take? size parked = none ↔ ofSize size parked = [] := by
  induction parked with
  | nil => simp [take?, ofSize]
  | cons b rest ih =>
    by_cases hb : b.size = size
    · simp [take?, ofSize, hb]
    · simpa [take?, ofSize, hb] using ih

/-- Taking a block pops the stack of its size. -/
theorem ofSize_of_take? {size : Nat} {parked others : List Block} {b : Block}
    (h : take? size parked = some (b, others)) :
    ofSize size parked = b :: ofSize size others := by
  induction parked generalizing others with
  | nil => cases h
  | cons c rest ih =>
    by_cases hc : c.size = size
    · simp only [take?, hc, if_true, Option.some.injEq, Prod.mk.injEq] at h
      obtain ⟨rfl, rfl⟩ := h
      simp [ofSize, hc]
    · simp only [take?, hc, if_false, Option.map_eq_some_iff, Prod.exists, Prod.mk.injEq] at h
      obtain ⟨_, _, htake, rfl, rfl⟩ := h
      simpa [ofSize, hc] using ih htake

end Parked

/-- A state under parked blocks. -/
structure Recycling (σ : Type) where
  parked : List Block
  inner : σ

/-! ## The layer -/

namespace Allocator

variable {σ : Type}

/-- Parked blocks of each size unless the capacity is given. -/
def defaultCapacity : Nat := 32

/-- Return every parked block, those parked first going first, and trim the
    allocator below. No block stays parked, not even after a trap. -/
def drain (inner : Allocator σ) (s : Recycling σ) : Return (Recycling σ) :=
  ((inner.freeAll s.parked.reverse s.inner).bind inner.trim).map (Recycling.mk [])

/-- Ask the allocator below. After a refusal drain and ask once more; a second
    refusal is reported as the first. -/
def allocBelow (inner : Allocator σ) (size : Nat) (zeroed : Bool) (s : Recycling σ) :
    Grant × Recycling σ :=
  match inner.alloc size zeroed s.inner with
  | (.error (.error first), state) =>
    match inner.drain { s with inner := state } with
    | .trapped drained => (.error .trap, drained)
    | .done drained =>
      match inner.alloc size zeroed drained.inner with
      | (.error (.error _), state) => (.error (.error first), { drained with inner := state })
      | (answer, state) => (answer, { drained with inner := state })
  | (answer, state) => (answer, { s with inner := state })

/-- The allocator, with up to `capacity` freed blocks of each size parked over it. -/
def recycling (capacity : Nat) (inner : Allocator σ) : Allocator (Recycling σ) where
  name := inner.name
  alloc size zeroed s :=
    match Parked.take? size s.parked with
    | some (block, others) =>
      (.ok (if zeroed then block.cleared else block), { s with parked := others })
    | none => inner.allocBelow size zeroed s
  free block s :=
    if (Parked.ofSize block.size s.parked).length < capacity then
      .done { s with parked := block :: s.parked }
    else (inner.free block s.inner).map fun state => { s with inner := state }
  trim s := inner.drain s
  usage s :=
    { inner.usage s.inner with
      cachedBuffers := s.parked.length
      cachedBytes := (s.parked.map Block.size).foldr (· + ·) 0 }

end Allocator

end DeviceMemory
