-- SUMMARY: The state of a session: the store and the named objects, and how a command uses and replaces them.
import DeviceMemory.Session.Answer
import DeviceMemory.Context.Basic

/-!
# Sessions

A session is a store and a table of names for each kind of object. A turn is
what one command does: it reads and changes the session and ends with a result
or a fault. Giving a name that is taken drops the object that had it, after the
new one is made.
-/

namespace DeviceMemory

/-- Objects by name. -/
abbrev Names (α : Type) := List (String × α)

namespace Names

variable {α : Type}

/-- The table without a name. -/
def erase (name : String) (names : Names α) : Names α := names.filter (·.1 ≠ name)

/-- The table with an object under a name. -/
def put (name : String) (a : α) (names : Names α) : Names α :=
  names.erase name ++ [(name, a)]

@[simp] theorem lookup_put (name : String) (a : α) (names : Names α) :
    (names.put name a).lookup name = some a := by
  have hnone : (names.erase name).lookup name = none := by
    rw [List.lookup_eq_none_iff]
    intro p hp
    have hne : p.1 ≠ name := by simpa [erase] using (List.mem_filter.mp hp).2
    simpa using Ne.symm hne
  rw [put, List.lookup_append, hnone]
  simp

end Names

/-- An array of any type and element shape. -/
structure AnyArray where
  t : ScalarType
  e : ElementShape
  array : BlockArray t e

namespace AnyArray

/-- The array, if it has a given type and element shape. -/
def as? (t : ScalarType) (e : ElementShape) (a : AnyArray) : Option (BlockArray t e) :=
  if h : a.t = t ∧ a.e = e then some (h.1 ▸ h.2 ▸ a.array) else none

/-- The array with its element shape, if it has a given type. -/
def ofType? (t : ScalarType) (a : AnyArray) : Option ((e : ElementShape) × BlockArray t e) :=
  if h : a.t = t then some ⟨a.e, h ▸ a.array⟩ else none

end AnyArray

structure Session where
  store : Store
  allocators : Names AllocatorId
  blocks : Names Block
  buffers : Names Buffer
  pools : Names PoolId
  registries : Names Registry
  contexts : Names Context
  arrays : Names AnyArray
  /-- The registry that the whole process shares. -/
  shared : Registry

namespace Session

def empty : Session := ⟨.empty, [], [], [], [], [], [], [], .empty⟩

/-- What one command does. -/
abbrev Turn (α : Type) := ExceptT (Fault Failure) (StateM Session) α

namespace Turn

variable {α ε : Type}

/-- Run an action on the session's store. -/
def act (cause : ε → Failure) (action : Action ε α) : Turn α :=
  ExceptT.mk (StateT.mk fun session =>
    let (outcome, store) := (action.mapError cause).exec session.store
    (outcome, { session with store := store }))

/-- Run an action that fails like a device. -/
def onDevice (action : Action DeviceError α) : Turn α := act .device action

/-- Run an action that fails like an array. -/
def onArray (action : Action ArrayError α) : Turn α := act .array action

/-- What a function of the store says of it now. -/
def ask (f : Store → α) : Turn α := do return f (← get).store

/-- A change of the store that cannot fail and has a result. -/
def change (f : Store → α × Store) : Turn α := onDevice (Action.total f)

/-- A value that must be there for a command to make sense. -/
def required (name : String) (value : Option α) : Turn α :=
  match value with
  | some a => pure a
  | none => throw (.error (.badName name))

/-- The object under a name. -/
def find (table : Session → Names α) (name : String) : Turn α := do
  required name ((table (← get)).lookup name)

/-- A result that another error type describes. -/
def ofExcept (result : Except DeviceError α) : Turn α :=
  match result with
  | .ok a => pure a
  | .error cause => throw (.error (.device cause))

end Turn

/-! ## Giving names and taking them away -/

/-- Drop an object that may be there. -/
def dropOld {α : Type} (drop : α → Store → Store) (old : Option α) (s : Store) : Store :=
  match old with
  | some a => drop a s
  | none => s

def nameAllocator (id : String) (a : AllocatorId) : Turn Unit :=
  modify fun s => { s with allocators := s.allocators.put id a }

def nameBlock (id : String) (b : Block) : Turn Unit :=
  modify fun s => { s with blocks := s.blocks.put id b }

def nameRegistry (id : String) (r : Registry) : Turn Unit :=
  modify fun s => { s with registries := s.registries.put id r }

def nameBuffer (id : String) (b : Buffer) : Turn Unit :=
  modify fun s =>
    { s with
      store := dropOld Buffer.drop (s.buffers.lookup id) s.store
      buffers := s.buffers.put id b }

def namePool (id : String) (p : PoolId) : Turn Unit :=
  modify fun s =>
    { s with
      store := dropOld Store.dropPoolHandle (s.pools.lookup id) s.store
      pools := s.pools.put id p }

def nameContext (id : String) (c : Context) : Turn Unit :=
  modify fun s =>
    { s with
      store := dropOld Context.drop (s.contexts.lookup id) s.store
      contexts := s.contexts.put id c }

def nameArray (id : String) (a : AnyArray) : Turn Unit :=
  modify fun s =>
    { s with
      store := dropOld (·.array.drop) (s.arrays.lookup id) s.store
      arrays := s.arrays.put id a }

/-- Put a changed context back under its name. -/
def updateContext (id : String) (c : Context) : Turn Unit :=
  modify fun s => { s with contexts := s.contexts.put id c }

/-- Put a changed array back under its name. -/
def updateArray (id : String) (a : AnyArray) : Turn Unit :=
  modify fun s => { s with arrays := s.arrays.put id a }

end Session

end DeviceMemory
