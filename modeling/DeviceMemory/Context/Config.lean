-- SUMMARY: The settings of a device context, and how they are read from named variables.
import DeviceMemory.Allocator.Recycling
import DeviceMemory.Launch.Grid

/-!
# Configuration

A configuration comes from settings given one by one, or from variables, looked
up by name. In a variable, a number that cannot be read counts as not given; a
device that cannot be read is an error. The variables are independent of one
another.
-/

namespace DeviceMemory

/-- The settings of a device context. -/
structure Config where
  device : Device
  /-- Number of this process among those on the host. -/
  rank : Nat
  threadsPerBlock : Nat
  /-- Whether the pool keeps slots that no one uses. -/
  retainShared : Bool
  /-- Parked blocks of each size. -/
  cacheCapacity : Nat
  deriving DecidableEq

/-- Settings given one by one, each of which may be missing. -/
structure Settings where
  device : Option String
  rank : Option Nat
  threadsPerBlock : Option Nat
  retainShared : Option Bool
  cacheCapacity : Option Nat

namespace Config

def default : Config :=
  ⟨.cpu, 0, Grid.default.threadsPerBlock, false, Allocator.defaultCapacity⟩

/-- The number in a variable, or a default where there is none. -/
def number (value : Option String) (default : Nat) : Nat :=
  (value.bind fun text => Text.word? (Text.trimmed text.toList)).getD default

/-- Whether a variable is set to one of the words for yes. -/
def flag (value : Option String) : Bool :=
  value.any fun text => String.ofList (Text.trimmed text.toList) ∈ ["1", "true", "TRUE"]

/-- The device in a text, or the host where there is none. -/
def deviceOf (value : Option String) : Except DeviceError Device :=
  match value with
  | none => .ok default.device
  | some text => Device.parse text

/-- The configuration that variables give. Blocks have at least one thread. -/
def ofVariables (lookup : String → Option String) : Except DeviceError Config :=
  (deviceOf (lookup "GPUARR_DEVICE")).map fun device =>
    { device := device
      rank := number (lookup "GPUARR_RANK") default.rank
      threadsPerBlock :=
        max (number (lookup "GPUARR_THREADS_PER_BLOCK") default.threadsPerBlock) 1
      retainShared := flag (lookup "GPUARR_POOL_RETAIN")
      cacheCapacity := number (lookup "GPUARR_LRU_CAPACITY") default.cacheCapacity }

/-- The configuration of given settings. Nothing is adjusted. -/
def ofSettings (settings : Settings) : Except DeviceError Config :=
  (deviceOf settings.device).map fun device =>
    { device := device
      rank := settings.rank.getD default.rank
      threadsPerBlock := settings.threadsPerBlock.getD default.threadsPerBlock
      retainShared := settings.retainShared.getD default.retainShared
      cacheCapacity := settings.cacheCapacity.getD default.cacheCapacity }

end Config

end DeviceMemory
