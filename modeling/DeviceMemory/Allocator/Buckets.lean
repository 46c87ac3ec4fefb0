-- SUMMARY: The recycling layer with its parked blocks in a map from sizes to buckets.
import DeviceMemory.Allocator.Basic
import Mathlib.Data.List.AList

/-!
# Buckets

The blocks that a recycling layer parks are kept in a map from each size to its bucket, the
block parked last at the end. A bucket is made when the first block of its size comes back, even
if there is no room for it, and is removed when its last block is handed out. A drain goes
through the buckets in an order that the map decides on.
-/

namespace DeviceMemory

variable {σ : Type}

/-! ## Maps of buckets -/

/-- Parked blocks by size. -/
abbrev Buckets := AList fun _ : Nat => List Block

namespace Buckets

/-- The bucket of a size, empty if there is none. -/
def bucket (cache : Buckets) (size : Nat) : List Block := (cache.lookup size).getD []

/-- Take the block of a size that was parked last, and remove a bucket that is empty then. -/
def take (cache : Buckets) (size : Nat) : Option Block × Buckets :=
  match cache.lookup size with
  | none => (none, cache)
  | some blocks =>
    (blocks.getLast?,
      if blocks.dropLast = [] then cache.erase size else cache.insert size blocks.dropLast)

/-- Park a block if its bucket has room for it, else give it back. The bucket is there in any
    case. -/
def park (cache : Buckets) (capacity : Nat) (block : Block) : Option Block × Buckets :=
  if (cache.bucket block.size).length < capacity then
    (none, cache.insert block.size (cache.bucket block.size ++ [block]))
  else (some block, cache.insert block.size (cache.bucket block.size))

/-- All the blocks of a list of buckets. -/
def contents (entries : List ((_ : Nat) × List Block)) : List Block := entries.flatMap Sigma.snd

end Buckets

/-- A state under a map of buckets. -/
structure Bucketed (σ : Type) where
  cache : Buckets
  inner : σ

/-- The order in which the buckets of a map are drained, for each state. -/
structure BucketOrder (σ : Type) where
  entries : Bucketed σ → List ((_ : Nat) × List Block)
  perm : ∀ s, (entries s).Perm s.cache.entries

/-! ## The layer -/

namespace Allocator

/-- Empty the map, return all its blocks and trim the allocator below. -/
def drainBuckets (inner : Allocator σ) (order : BucketOrder σ) (s : Bucketed σ) :
    Return (Bucketed σ) :=
  ((inner.freeAll (Buckets.contents (order.entries s)) s.inner).bind inner.trim).map
    (Bucketed.mk ∅)

/-- The recycling layer over a map of buckets. -/
def bucketed (order : BucketOrder σ) (capacity : Nat) (inner : Allocator σ) :
    Allocator (Bucketed σ) where
  name := inner.name
  alloc size zeroed s :=
    match s.cache.take size with
    | (some block, cache) =>
      (.ok (if zeroed then block.cleared else block), { s with cache := cache })
    | (none, cache) =>
      match inner.alloc size zeroed s.inner with
      | (.error (.error first), state) =>
        match inner.drainBuckets order ⟨cache, state⟩ with
        | .trapped drained => (.error .trap, drained)
        | .done drained =>
          match inner.alloc size zeroed drained.inner with
          | (.error (.error _), state) => (.error (.error first), { drained with inner := state })
          | (answer, state) => (answer, { drained with inner := state })
      | (answer, state) => (answer, ⟨cache, state⟩)
  free block s :=
    match s.cache.park capacity block with
    | (none, cache) => .done { s with cache := cache }
    | (some overflow, cache) => (inner.free overflow s.inner).map (Bucketed.mk cache)
  trim s := inner.drainBuckets order s
  usage s :=
    { inner.usage s.inner with
      cachedBuffers := (s.cache.entries.map fun entry => entry.2.length).foldr (· + ·) 0
      cachedBytes :=
        (s.cache.entries.map fun entry => entry.1 * entry.2.length).foldr (· + ·) 0 }

end Allocator

end DeviceMemory
