-- SUMMARY: Stacks of metered and recycling layers over an allocator.
import DeviceMemory.Allocator.Base
import DeviceMemory.Allocator.Metered
import DeviceMemory.Allocator.Recycling

/-!
# Stacks of allocators

A stack is a base allocator under a list of layers, the outermost layer first.
Its state is determined by its shape. `Stack` packs a base, its layers and their
state into one value, for programs that hold allocators of different shapes.
-/

namespace DeviceMemory

/-! ## Layers over any allocator -/

/-- A layer over an allocator. -/
inductive Layer where
  | metered
  | recycling (capacity : Nat)
  deriving DecidableEq

/-- States of a list of layers over states of type `σ`. -/
def Layered (σ : Type) : List Layer → Type
  | [] => σ
  | .metered :: layers => Metered (Layered σ layers)
  | .recycling _ :: layers => Recycling (Layered σ layers)

/-- The state in which no layer has seen a block. -/
def Layered.initial {σ : Type} (base : σ) : (layers : List Layer) → Layered σ layers
  | [] => base
  | .metered :: layers => Metered.mk .zero (initial base layers)
  | .recycling _ :: layers => Recycling.mk [] (initial base layers)

/-- The allocator under a list of layers. -/
def Allocator.layered {σ : Type} (base : Allocator σ) :
    (layers : List Layer) → Allocator (Layered σ layers)
  | [] => base
  | .metered :: layers => (base.layered layers).metered
  | .recycling capacity :: layers => (base.layered layers).recycling capacity

/-! ## Stacks as values -/

/-- A base allocator. -/
inductive Base where
  | host
  | budget (requests : Nat) (device : String)
  | limit (bytes : Nat)

namespace Base

/-- States of a base allocator. -/
def State : Base → Type
  | .host => Nat
  | .budget .. => Allocator.Budget
  | .limit _ => Allocator.Quota

def initial : (base : Base) → base.State
  | .host => (0 : Nat)
  | .budget requests _ => Allocator.Budget.mk requests 0
  | .limit _ => Allocator.Quota.mk 0 0

def allocator : (base : Base) → Allocator base.State
  | .host => Allocator.host
  | .budget _ device => Allocator.budget device
  | .limit bytes => Allocator.limit bytes

end Base

/-- An allocator of any shape, with its state. -/
structure Stack where
  base : Base
  layers : List Layer
  state : Layered base.State layers

namespace Stack

/-- A stack that has granted nothing yet. -/
def new (base : Base) (layers : List Layer) : Stack :=
  ⟨base, layers, Layered.initial base.initial layers⟩

/-- What the stack does, without its state. -/
def allocator (s : Stack) : Allocator (Layered s.base.State s.layers) :=
  s.base.allocator.layered s.layers

def name (s : Stack) : String := s.allocator.name

def alloc (s : Stack) (size : Nat) (zeroed : Bool) : Grant × Stack :=
  let (answer, state) := s.allocator.alloc size zeroed s.state
  (answer, { s with state := state })

def free (s : Stack) (block : Block) : Return Stack :=
  (s.allocator.free block s.state).map fun state => { s with state := state }

def trim (s : Stack) : Return Stack :=
  (s.allocator.trim s.state).map fun state => { s with state := state }

def usage (s : Stack) : Usage := s.allocator.usage s.state

/-- The stack of a device: recycling over metered over the device's memory, so
    that parked blocks count as device memory. -/
def ofDevice (capacity : Nat) : Stack :=
  new .host [.recycling capacity, .metered]

end Stack

end DeviceMemory
