-- SUMMARY: How a process ends that does not survive an error.
import DeviceMemory.Array.Error

/-!
# Termination

Numerical work must not go on after a fault of the device, so a process may end
at an error instead of handling it. It then reports the wording of the error and
leaves with a status other than zero. An error without a wording ends the
process too, without a report and with a status of its own.
-/

namespace DeviceMemory

/-- What a process leaves behind. -/
structure Termination where
  status : Nat
  report : Option String
  deriving DecidableEq

namespace Termination

/-- The end of a process at an error with a wording. -/
def ofMessage (message : String) : Termination := ⟨1, some ("device error: " ++ message)⟩

/-- The end of a process at an error of the device. -/
def ofDevice (e : DeviceError) : Termination := ofMessage e.message

/-- The end of a process at an array error, which may have no wording. -/
def ofArray (e : ArrayError) : Termination :=
  match e.message? with
  | some message => ofMessage message
  | none => ⟨101, none⟩

end Termination

end DeviceMemory
