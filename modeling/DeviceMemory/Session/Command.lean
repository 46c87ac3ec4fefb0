-- SUMMARY: The commands of a session, which name the objects they make and use.
import DeviceMemory.Allocator.Stack
import DeviceMemory.Context.Config
import DeviceMemory.Array.Basic
import DeviceMemory.Launch.Kernel
import DeviceMemory.Scalar.Literal

/-!
# Commands

A session holds allocators, raw blocks, buffers, pools, registries, contexts and
arrays, each kind under names of its own. A command names what it uses; `id` is
the name of what it makes or drops.
-/

namespace DeviceMemory.Session

/-- Commands on allocators and on blocks taken from them directly. -/
inductive AllocatorCommand where
  | make (id : String) (base : Base) (layers : List Layer)
  | usage (alloc : String)
  | trim (alloc : String)
  | synchronize (alloc : String)
  | drop (id : String)
  | takeBlock (id alloc : String) (size : Nat) (zeroed : Bool)
  | writeBlock (id : String) (bytes : List UInt8)
  | clearBlock (id : String)
  | giveBlock (id alloc : String)

/-- Commands on buffers. -/
inductive BufferCommand where
  | create (id alloc : String) (t : ScalarType) (shape : List Nat) (zeroed : Bool)
  | allocate (id alloc : String) (t : ScalarType) (shape : List Nat) (zeroed : Bool)
  | view (id buf : String) (offset size : Nat)
  | clone (id buf : String)
  | detach (id buf : String)
  | acquire (buf : String)
  | zero (buf : String)
  | synchronize (buf : String)
  | describe (buf : String)
  | shares (buf other : String)
  | usage (buf : String)
  | write (buf : String) (bytes : List UInt8)
  | read (buf : String) (size : Option Nat)
  | copy (buf source : String)
  | drop (id : String)
  | launch (d : Direction) (t : ScalarType) (buf indices source : String) (n block : Nat) (g : Grid)
  | reduce (r : Reduction) (t : ScalarType) (buf : String) (g : Grid)

/-- Commands on pools. -/
inductive PoolCommand where
  | make (id alloc : String) (retains : Bool)
  | clone (id pool : String)
  | acquire (id pool : String) (key : PoolKey) (t : ScalarType) (shape : List Nat)
  | describe (pool : String) (keys : List PoolKey)
  | release (pool : String) (key : PoolKey)
  | clear (pool : String)
  | drop (id : String)

/-- Commands on registries and contexts. A registry that is not named is the one
    that the whole process shares. -/
inductive ContextCommand where
  | makeRegistry (id : String)
  | allocator (id registry device : String) (capacity : Nat)
  | sharedAllocator (device : String)
  | setUp (id : String) (settings : Settings) (registry : Option String)
  | describe (ctx : String)
  | shareAllocator (id ctx : String)
  | sharePool (id ctx : String)
  | tearDown (ctx : String)
  | drop (id : String)

/-- Commands on arrays. -/
inductive ArrayCommand where
  | new (id : String) (t : ScalarType) (e : ElementShape) (alloc : String) (len : Nat)
  | fromHost (id : String) (t : ScalarType) (e : ElementShape) (alloc : String)
      (values : List Literal)
  | shared (id : String) (t : ScalarType) (e : ElementShape) (pool : String) (key : PoolKey)
      (len : Nat)
  | withId (id : String) (t : ScalarType) (e : ElementShape) (pool : String) (key len : Nat)
  | inContext (id : String) (t : ScalarType) (e : ElementShape) (ctx : String) (len : Nat)
  | sharedIn (id : String) (t : ScalarType) (e : ElementShape) (ctx : String) (key : PoolKey)
      (len : Nat)
  | setGrid (arr : String) (g : Grid)
  | describe (arr : String)
  | acquire (arr : String)
  | zero (arr : String)
  | toHost (arr : String)
  | ofHost (arr : String) (values : List Literal)
  | copy (arr source : String) (index count : Nat)
  | scatter (arr indices source : String) (n : Nat)
  | gather (arr indices source : String) (start n : Nat)
  | reduce (r : Reduction) (arr : String)
  | summarize (arr : String)
  | shareBuffer (id arr : String)
  | drop (id : String)

/-- A step of a session. -/
inductive Command where
  | allocator (c : AllocatorCommand)
  | buffer (c : BufferCommand)
  | pool (c : PoolCommand)
  | context (c : ContextCommand)
  | array (c : ArrayCommand)

end DeviceMemory.Session
