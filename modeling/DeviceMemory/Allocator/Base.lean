-- SUMMARY: The allocators at the bottom of a stack: host memory, alone, with a budget of requests or with a limit on bytes.
import DeviceMemory.Allocator.Basic
import DeviceMemory.Word

/-!
# Base allocators

Host memory grants every request of a size that a process can address. A budget
counts requests and refuses once it is spent; a limit counts the bytes in use,
refuses what would exceed it and takes back no more than is in use. All three
hand out zeroed blocks at addresses never used before, and park nothing.
-/

namespace DeviceMemory

/-! ## Host memory -/

namespace HostMemory

/-- The largest capacity that one allocation can have, in bytes. -/
def largestCapacity : Nat := Nat.pow 2 63 - 1

/-- The size from which on a process cannot address the memory. -/
def addressable : Nat := Nat.pow 2 47

/-- Why host memory refuses a size, if it does. Memory comes in words of eight
    bytes. -/
def refusal? (size : Nat) : Option String :=
  if largestCapacity < Word.ceilDiv size 8 * 8 then
    some "memory allocation failed because the computed capacity exceeded the collection's maximum"
  else if addressable ≤ size then
    some "memory allocation failed because the memory allocator returned an error"
  else none

/-- A zeroed block of host memory at a given address. -/
def grant (address size : Nat) : Except DeviceError Block :=
  match refusal? size with
  | some reason => .error (.allocationFailed "CPU" size reason)
  | none => .ok ⟨address, List.replicate size 0⟩

theorem size_of_grant {address size : Nat} {b : Block} (h : grant address size = .ok b) :
    b.size = size := by
  simp only [grant] at h
  split at h
  next => cases h
  next =>
    cases h
    simp [Block.size]

end HostMemory

namespace Allocator

/-- Host memory. The state is the next free address. -/
def host : Allocator Nat where
  name := "CPU"
  alloc size _ next :=
    match HostMemory.grant next size with
    | .ok block => (.ok block, next + 1)
    | .error cause => (.error (.error cause), next)
  free _ next := .done next
  trim next := .done next
  usage _ := .none

/-! ## A budget of requests -/

/-- State of an allocator with a budget. -/
structure Budget where
  remaining : Nat
  next : Nat

/-- Host memory for as many requests as the budget has. Requests that host memory
    refuses count, and returned blocks give nothing back. -/
def budget (device : String) : Allocator Budget where
  name := device
  alloc size zeroed s :=
    match s.remaining with
    | 0 => (.error (.error (.allocationFailed device size "budget exhausted")), s)
    | remaining + 1 =>
      let (answer, next) := host.alloc size zeroed s.next
      (answer, ⟨remaining, next⟩)
  free _ s := .done s
  trim s := .done s
  usage _ := .none

/-! ## A limit on bytes -/

/-- State of an allocator with a limit. -/
structure Quota where
  used : Nat
  next : Nat

/-- Host memory for at most `bytes` bytes at a time. A block larger than what is
    in use was not all granted here, and taking it back traps. -/
def limit (bytes : Nat) : Allocator Quota where
  name := "CPU"
  alloc size zeroed s :=
    if bytes - s.used < size then
      let reason := s.used.repr ++ " of " ++ bytes.repr ++ " bytes in use"
      (.error (.error (.allocationFailed "CPU" size reason)), s)
    else
      match host.alloc size zeroed s.next with
      | (.ok block, next) => (.ok block, ⟨s.used + size, next⟩)
      | (.error fault, next) => (.error fault, { s with next := next })
  free b s :=
    if b.size ≤ s.used then .done { s with used := s.used - b.size } else .trapped s
  trim s := .done s
  usage _ := .none

end Allocator

end DeviceMemory
