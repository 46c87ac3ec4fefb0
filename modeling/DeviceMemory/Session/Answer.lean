-- SUMMARY: What a session answers to a command.
import DeviceMemory.Array.Summary
import DeviceMemory.Scalar.Literal

/-!
# Answers

A command is answered by a result or by a failure. Descriptions show an object
as it is when the command has run and before its name is given.
-/

namespace DeviceMemory.Session

/-- What a buffer says of itself. -/
structure BufferDescription where
  isAllocated : Bool
  size : Nat
  offset : Nat
  dtype : ScalarType
  shape : List Nat
  numel : Nat
  handles : Nat
  device : String

/-- What a pool says of itself, and of some keys. -/
structure PoolDescription where
  liveSlots : Nat
  retains : Bool
  contains : List (PoolKey × Bool)
  outstandingBuffers : Nat

/-- What a context says of itself. -/
structure ContextDescription where
  device : Device
  rank : Nat
  visible : Nat
  threadsPerBlock : Nat
  retains : Bool
  allocator : String

/-- What an array says of itself. -/
structure ArrayDescription where
  len : Nat
  shape : List Nat
  numel : Nat
  byteSize : Nat
  ownership : Ownership
  isAcquired : Bool
  block : Nat
  threadsPerBlock : Nat

/-- The result of a command. -/
inductive Answer where
  | nothing
  | text (s : String)
  | flag (b : Bool)
  | bytes (bs : List UInt8)
  | usage (u : Usage)
  | rawBlock (b : Block)
  | buffer (d : BufferDescription)
  | slot (acquisition : Acquisition) (d : BufferDescription)
  | pool (d : PoolDescription)
  | allocator (name : String) (sameAs : List String)
  | sharedAllocator (name : String) (isHost : Bool)
  | context (d : ContextDescription)
  | scalar (l : Literal)
  | scalars (ls : List Literal)
  | array (d : ArrayDescription)
  | summary (s : Summary)

/-- Why a command has no result. -/
inductive Failure where
  | device (e : DeviceError)
  | array (e : ArrayError)
  /-- The command names nothing, or an object of the wrong kind. -/
  | badName (name : String)
  deriving DecidableEq

/-- The answer to a command, with what it wrote to the journal. -/
structure Reply where
  outcome : Except (Fault Failure) Answer
  events : List Event

end DeviceMemory.Session
