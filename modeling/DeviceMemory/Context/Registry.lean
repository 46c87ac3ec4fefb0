-- SUMMARY: Registries: one allocator for each device, made on first request.
import DeviceMemory.Store.Action

/-!
# Registries

A registry hands out one allocator for each device. The first request for a
device makes the allocator and fixes its capacity; later requests share it
whatever capacity they ask for. Only the host has an allocator.
-/

namespace DeviceMemory

/-- The allocators made so far. -/
structure Registry where
  allocators : List (Device × AllocatorId)

namespace Registry

def empty : Registry := ⟨[]⟩

/-- A new stack over the memory of a device. -/
def build (device : Device) (capacity : Nat) : Action DeviceError AllocatorId :=
  match device with
  | .cpu => Action.total (Store.addStack (Stack.ofDevice capacity))
  | .cuda _ =>
    Action.fail (.invalidDevice (device.canonical ++ " (built without the `cuda` feature)"))

/-- The allocator of a device, made with the given capacity if this is the first
    request for it. -/
def get (r : Registry) (device : Device) (capacity : Nat) :
    Action DeviceError (AllocatorId × Registry) := do
  match r.allocators.lookup device with
  | some id => return (id, r)
  | none =>
    let id ← build device capacity
    return (id, ⟨r.allocators ++ [(device, id)]⟩)

end Registry

end DeviceMemory
