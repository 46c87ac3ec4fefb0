-- SUMMARY: Devices by name: the host, or one of its accelerators.
import DeviceMemory.Text.Blank
import DeviceMemory.Text.Numeral

/-!
# Device names

A device is named by the text `CPU`, or by `CUDA` or `GPU` with an optional
ordinal after a colon. Case and blanks around the name do not matter, and a bare
accelerator name means ordinal zero. `Device.canonical` writes the one spelling
that messages show.
-/

namespace DeviceMemory

/-- A device that memory can live on. -/
inductive Device where
  | cpu
  | cuda (ordinal : Nat)
  deriving DecidableEq

namespace Device

/-- The spelling of the device that messages show. -/
def canonical : Device → String
  | .cpu => "CPU"
  | .cuda ordinal => "CUDA:" ++ ordinal.repr

/-- The ordinal of an accelerator. -/
def ordinal? : Device → Option Nat
  | .cpu => none
  | .cuda ordinal => some ordinal

/-- How many devices of the same kind this machine has: the host alone. -/
def visible : Device → Nat
  | .cpu => 1
  | .cuda _ => 0

/-! ## Reading -/

/-- The text before the first colon and, if there is a colon, the text after it. -/
def splitOrdinal (text : List Char) : List Char × Option (List Char) :=
  match text.span (· != ':') with
  | (kind, []) => (kind, none)
  | (kind, _ :: ordinal) => (kind, some ordinal)

/-- The device that upper case text without surrounding blanks names. -/
def ofName? (name : List Char) : Option Device :=
  match splitOrdinal name with
  | (kind, none) =>
    if kind = "CPU".toList then some .cpu
    else if kind = "CUDA".toList ∨ kind = "GPU".toList then some (.cuda 0)
    else none
  | (kind, some ordinal) =>
    if kind = "CUDA".toList ∨ kind = "GPU".toList then (Text.word? ordinal).map .cuda
    else none

/-- The device that a text names. -/
def parse? (text : String) : Option Device :=
  ofName? ((Text.trimmed text.toList).map Char.toUpper)

end Device

end DeviceMemory
