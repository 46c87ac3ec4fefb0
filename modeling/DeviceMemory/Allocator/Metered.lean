-- SUMMARY: A layer that counts what an allocator has granted and not taken back.
import DeviceMemory.Allocator.Basic
import DeviceMemory.Word

/-!
# Metered allocators

A meter counts blocks and bytes granted and not yet taken back, the largest
number of bytes held at one time, and every grant ever made. The counters are
machine words. A refused request changes none of them, and neither does a block
that the allocator below does not take back.
-/

namespace DeviceMemory

/-- The counters of a metered allocator. -/
structure Meter where
  liveBuffers : Nat
  liveBytes : Nat
  peakBytes : Nat
  totalAllocations : Nat
  deriving DecidableEq

namespace Meter

def zero : Meter := ⟨0, 0, 0, 0⟩

/-- Count a grant, except in the peak. -/
def count (m : Meter) (size : Nat) : Meter :=
  { m with
    liveBuffers := Word.wrapAdd m.liveBuffers 1
    liveBytes := Word.wrapAdd m.liveBytes size
    totalAllocations := Word.wrapAdd m.totalAllocations 1 }

/-- Count a block that came back. -/
def uncount (m : Meter) (size : Nat) : Meter :=
  { m with
    liveBuffers := Word.wrapSub m.liveBuffers 1
    liveBytes := Word.wrapSub m.liveBytes size }

@[simp] theorem peakBytes_uncount (m : Meter) (size : Nat) :
    (m.uncount size).peakBytes = m.peakBytes := by
  cases m
  rfl

@[simp] theorem totalAllocations_uncount (m : Meter) (size : Nat) :
    (m.uncount size).totalAllocations = m.totalAllocations := by
  cases m
  rfl

end Meter

/-- A state under a meter. -/
structure Metered (σ : Type) where
  meter : Meter
  inner : σ

namespace Allocator

variable {σ : Type}

/-- The allocator, with a meter over it. The peak is taken of the exact number of
    live bytes, which must fit in a word. -/
def metered (inner : Allocator σ) : Allocator (Metered σ) where
  name := inner.name
  alloc size zeroed s :=
    match inner.alloc size zeroed s.inner with
    | (.error fault, state) => (.error fault, { s with inner := state })
    | (.ok block, state) =>
      let counted := s.meter.count size
      match Word.add? s.meter.liveBytes size with
      | none => (.error .trap, ⟨counted, state⟩)
      | some live =>
        (.ok block, ⟨{ counted with peakBytes := max counted.peakBytes live }, state⟩)
  free block s :=
    match inner.free block s.inner with
    | .done state => .done ⟨s.meter.uncount block.size, state⟩
    | .trapped state => .trapped { s with inner := state }
  trim s := (inner.trim s.inner).map fun state => { s with inner := state }
  usage s :=
    { inner.usage s.inner with
      liveBuffers := s.meter.liveBuffers
      liveBytes := s.meter.liveBytes
      peakBytes := s.meter.peakBytes
      totalAllocations := s.meter.totalAllocations }

end Allocator

end DeviceMemory
