-- SUMMARY: Device contexts: set up from a configuration, torn down with a report of what is left.
import DeviceMemory.Context.Config
import DeviceMemory.Context.Registry
import DeviceMemory.Launch.Grid
import DeviceMemory.Pool

/-!
# Device contexts

A context selects a device and owns a pool on the device's allocator. Tearing it
down forgets the slots of the pool, returns parked blocks to the device and
reports what others still hold.
-/

namespace DeviceMemory

/-- A device that has been set up. -/
structure Context where
  device : Device
  rank : Nat
  visible : Nat
  allocator : AllocatorId
  pool : PoolId
  grid : Grid
  tornDown : Bool

namespace Context

/-- Set up a context. -/
def setUp (registry : Registry) (config : Config) :
    Action DeviceError (Context × Registry) := do
  let device := config.device
  Action.ensure (device.visible ≠ 0)
    (.invalidDevice (device.canonical ++ " (no devices visible)"))
  let (allocator, registry) ← registry.get device config.cacheCapacity
  let pool ← Action.total (Store.addPool allocator config.retainShared)
  Action.update (Store.record
    (.contextInitialized device.visible config.rank device.canonical))
  return (⟨device, config.rank, device.visible, allocator, pool,
    Grid.ofThreads config.threadsPerBlock, false⟩, registry)

/-- Forget the slots of the pool and return parked blocks, the first time. -/
def release (c : Context) (s : Store) : Store :=
  if c.tornDown then s else (s.clearPool c.pool).trim c.allocator

/-- Release what the context holds and report what is left. The report covers
    every user of the allocator. -/
def tearDown (c : Context) (s : Store) : (Usage × Context) × Store :=
  let s := c.release s
  let usage := s.usage c.allocator
  let event := Event.outstandingAtTeardown c.device.canonical usage.outstandingBuffers
    usage.outstandingBytes
  let s := if 0 < usage.outstandingBuffers then s.record event else s
  ((usage, { c with tornDown := true }), s)

/-- Tear the context down unless that was done, and drop its pool. -/
def drop (c : Context) (s : Store) : Store :=
  let s := if c.tornDown then s else (c.tearDown s).2
  s.dropPoolHandle c.pool

end Context

end DeviceMemory
