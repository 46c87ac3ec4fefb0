import DeviceMemory.Session.Step
import DeviceMemory.Termination
import DeviceMemory.Proofs.Allocator.Ledger
import DeviceMemory.Proofs.Allocator.Limited
import DeviceMemory.Proofs.Allocator.Refusals
import DeviceMemory.Proofs.Store.Balance
import DeviceMemory.Proofs.Store.Triple
import DeviceMemory.Proofs.Store.Since
import DeviceMemory.Proofs.Store.Changes
import DeviceMemory.Proofs.Buffer.Balance
import DeviceMemory.Proofs.Buffer.Contents
import DeviceMemory.Proofs.Buffer.Since
import DeviceMemory.Proofs.Buffer.Changes
import DeviceMemory.Proofs.Buffer.Formed
import DeviceMemory.Proofs.Pool.Balance
import DeviceMemory.Proofs.Pool.Live
import DeviceMemory.Proofs.Pool.Onward
import DeviceMemory.Proofs.Pool.Moved
import DeviceMemory.Proofs.Launch.Partition
import DeviceMemory.Proofs.Launch.Sequential
import DeviceMemory.Proofs.Launch.Order
import DeviceMemory.Proofs.Launch.Aliasing
import DeviceMemory.Proofs.Launch.Since
import DeviceMemory.Proofs.Array.Balance
import DeviceMemory.Proofs.Array.Since
import DeviceMemory.Proofs.Array.Contents
import DeviceMemory.Proofs.Array.Changes
import DeviceMemory.Proofs.Session.Holdings
import DeviceMemory.Proofs.Session.Turn
import DeviceMemory.Proofs.Session.Balance
import DeviceMemory.Proofs.Session.Bookkeeping
import DeviceMemory.Proofs.Session.Moves
import DeviceMemory.Proofs.Session.Effects
import DeviceMemory.Proofs.Session.History
import DeviceMemory.Proofs.Session.Failure
import DeviceMemory.Proofs.Session.Liveness
import DeviceMemory.Proofs.Session.Coherence
import DeviceMemory.Proofs.Session.Changes
import DeviceMemory.Proofs.Session.Fresh
import DeviceMemory.Proofs.Session.Registries
import DeviceMemory.Proofs.Context.Release
import DeviceMemory.Proofs.Session.Teardown
import DeviceMemory.Proofs.Launch.Tuning
import DeviceMemory.Proofs.Launch.Success
import DeviceMemory.Proofs.Launch.Reductions
import DeviceMemory.Proofs.Launch.Conservation
import DeviceMemory.Proofs.Launch.Inverse
import DeviceMemory.Proofs.Launch.Gathering
import DeviceMemory.Proofs.Session.Fates
import DeviceMemory.Proofs.Session.Handles
import DeviceMemory.Proofs.Session.Representation
import DeviceMemory.Proofs.Session.Isolation
import DeviceMemory.Proofs.Session.Overlaps
import DeviceMemory.Proofs.Array.Gathering
import DeviceMemory.Proofs.Buffer.Copies
import DeviceMemory.Proofs.Buffer.HostBlocks
import DeviceMemory.Proofs.Launch.Guards
import DeviceMemory.Proofs.Launch.Snapshots
import DeviceMemory.Proofs.Array.Ranges
import DeviceMemory.Proofs.Array.Requests
import DeviceMemory.Proofs.Array.Copies
import DeviceMemory.Proofs.Array.Reductions
import DeviceMemory.Proofs.Allocator.Metering
import DeviceMemory.Proofs.Allocator.Draining
import DeviceMemory.Proofs.Device.Names
import DeviceMemory.Proofs.Allocator.Buckets
import DeviceMemory.Proofs.Context.Variables
