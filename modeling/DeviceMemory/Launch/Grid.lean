-- SUMMARY: How the work items of a launch are split into blocks, and lists split the same way.
import DeviceMemory.Word

/-!
# Grids

A launch of `n` work items runs them in blocks of a fixed number of threads, the
last block holding what is left. `chunks` splits a list the same way, and
`wholeChunks` leaves out what is left.
-/

namespace DeviceMemory

/-- The split of a launch into blocks. -/
structure Grid where
  threadsPerBlock : Nat
  deriving DecidableEq

namespace Grid

def default : Grid := ⟨256⟩

/-- A grid with at least one thread a block. -/
def ofThreads (threads : Nat) : Grid := ⟨max threads 1⟩

/-- Blocks that cover `n` work items, if blocks have threads. -/
def blocks? (g : Grid) (n : Nat) : Option Nat :=
  if g.threadsPerBlock = 0 then none else some (Word.ceilDiv n g.threadsPerBlock)

/-- Threads that a block of `n` work items uses. -/
def threads (g : Grid) (n : Nat) : Nat := max (min g.threadsPerBlock n) 1

/-- Scalars that a block of threads handles with `block` scalars each, if there
    are any and their number fits in a word. -/
def span? (g : Grid) (block : Nat) : Option Nat :=
  match Word.mul? g.threadsPerBlock block with
  | some 0 | none => none
  | some span => some span

end Grid

/-! ## Chunks of lists -/

variable {α : Type}

/-- The first `count` runs of `width` entries. -/
def takeChunks (width : Nat) : (count : Nat) → List α → List (List α)
  | 0, _ => []
  | count + 1, xs => xs.take width :: takeChunks width count (xs.drop width)

/-- The list in runs of `width` entries, the last one holding what is left. -/
def chunks (width : Nat) (xs : List α) : List (List α) :=
  takeChunks width (Word.ceilDiv xs.length width) xs

/-- The full runs of `width` entries. -/
def wholeChunks (width : Nat) (xs : List α) : List (List α) :=
  takeChunks width (xs.length / width) xs

@[simp] theorem takeChunks_length (width count : Nat) (xs : List α) :
    (takeChunks width count xs).length = count := by
  induction count generalizing xs with
  | zero => rfl
  | succ count ih => simp [takeChunks, ih]

/-- The runs follow one another. -/
theorem takeChunks_flatten (width count : Nat) (xs : List α) :
    (takeChunks width count xs).flatten = xs.take (count * width) := by
  induction count generalizing xs with
  | zero => simp [takeChunks]
  | succ count ih =>
    rw [takeChunks, List.flatten_cons, ih, Nat.succ_mul, Nat.add_comm, List.take_add]

/-- Splitting loses nothing. -/
theorem chunks_flatten {width : Nat} (hwidth : 0 < width) (xs : List α) :
    (chunks width xs).flatten = xs := by
  rw [chunks, takeChunks_flatten, List.take_of_length_le]
  exact Word.le_ceilDiv_mul hwidth xs.length

end DeviceMemory
