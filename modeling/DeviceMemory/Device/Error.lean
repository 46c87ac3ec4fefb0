-- SUMMARY: Why a device operation fails, with the wording of each cause.
import DeviceMemory.Device.Spec
import DeviceMemory.Scalar.Kind

/-!
# Device errors

An operation fails with a cause (`DeviceError`), whose wording is
`DeviceError.message`, or it stops at a broken precondition (`Fault.trap`): a
size that does not fit in a word, or an index outside its range.
-/

namespace DeviceMemory

/-- Why a device operation fails. -/
inductive DeviceError where
  /-- The allocator could not satisfy a request. -/
  | allocationFailed (device : String) (size : Nat) (reason : String)
  /-- A copy between host and device failed. -/
  | transferFailed (reason : String)
  /-- A kernel launch was refused. -/
  | launchFailed (kernel : String) (reason : String)
  /-- Two byte ranges that must be equally long are not. -/
  | sizeMismatch (expected actual : Nat)
  /-- A text or an ordinal that names no usable device. -/
  | invalidDevice (device : String)
  /-- Buffers of one operation live on different devices. -/
  | deviceMismatch (lhs rhs : String)
  /-- The buffer has no memory. -/
  | notAllocated
  /-- A view that does not lie inside its buffer. -/
  | invalidView (offset size bufferSize : Nat)
  /-- A byte range that holds no whole, aligned scalars of the type. -/
  | layout (scalars : String) (offset size : Nat)
  /-- A pool slot was acquired again with another size. -/
  | slotMismatch (key expected actual : Nat)
  deriving DecidableEq

/-- The wording of an error. -/
def DeviceError.message : DeviceError → String
  | .allocationFailed device size reason =>
    "failed to allocate " ++ size.repr ++ " bytes on " ++ device ++ ": " ++ reason
  | .transferFailed reason => "transfer failed: " ++ reason
  | .launchFailed kernel reason => "kernel '" ++ kernel ++ "' failed to launch: " ++ reason
  | .sizeMismatch expected actual =>
    "size mismatch: expected " ++ expected.repr ++ ", got " ++ actual.repr
  | .invalidDevice device => "invalid device: " ++ device
  | .deviceMismatch lhs rhs => "buffers live on different devices: " ++ lhs ++ " and " ++ rhs
  | .notAllocated => "buffer not allocated"
  | .invalidView offset size bufferSize =>
    "invalid view: offset " ++ offset.repr ++ " + size " ++ size.repr ++
      " exceeds buffer size " ++ bufferSize.repr
  | .layout scalars offset size =>
    "cannot view " ++ size.repr ++ " bytes at offset " ++ offset.repr ++ " as " ++ scalars
  | .slotMismatch key expected actual =>
    "pool slot " ++ key.repr ++ " holds " ++ expected.repr ++ " bytes, requested " ++ actual.repr

/-- How an operation stops short of a result. -/
inductive Fault (ε : Type) where
  /-- It fails with a cause. -/
  | error (cause : ε)
  /-- It stops at a broken precondition. -/
  | trap
  deriving DecidableEq

namespace Fault

/-- The same fault with its cause seen from an enclosing operation. -/
def map {ε δ : Type} (f : ε → δ) : Fault ε → Fault δ
  | .error cause => .error (f cause)
  | .trap => .trap

end Fault

/-- The device that a text names. The error shows the text without the blanks
    around it. -/
def Device.parse (text : String) : Except DeviceError Device :=
  match Device.parse? text with
  | some device => .ok device
  | none => .error (.invalidDevice (String.ofList (Text.trimmed text.toList)))

end DeviceMemory
