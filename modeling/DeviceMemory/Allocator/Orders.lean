-- SUMMARY: Recycling layers that give parked blocks back in any order; oldest first is one of them.
import DeviceMemory.Allocator.Stack

/-!
# Orders of a drain

A drain gives the parked blocks back one by one, and nothing promises which of them goes
first. A `DrainOrder` picks an order for each state of a recycling layer, and
`recyclingBy` is the layer that drains in this order. The layer that runs drains oldest
first (`recycling_eq`), so what holds for every order holds for it.
-/

namespace DeviceMemory

variable {σ τ : Type}

/-- The same blocks parked over another state. -/
def Recycling.map (f : σ → τ) (s : Recycling σ) : Recycling τ := ⟨s.parked, f s.inner⟩

/-- The same counters over another state. -/
def Metered.map (f : σ → τ) (s : Metered σ) : Metered τ := ⟨s.meter, f s.inner⟩

/-- The order in which a recycling layer gives back what it has parked, for each of its
    states. -/
structure DrainOrder (σ : Type) where
  blocks : Recycling σ → List Block
  perm : ∀ s, (blocks s).Perm s.parked

namespace DrainOrder

/-- Blocks parked first go first. -/
def oldestFirst : DrainOrder σ :=
  ⟨fun s => s.parked.reverse, fun s => s.parked.reverse_perm⟩

/-- Blocks parked last go first. -/
def newestFirst : DrainOrder σ :=
  ⟨fun s => s.parked, fun s => .refl s.parked⟩

/-- The same order over states that show more. -/
def comap (f : τ → σ) (order : DrainOrder σ) : DrainOrder τ :=
  ⟨fun s => order.blocks (s.map f), fun s => order.perm (s.map f)⟩

end DrainOrder

/-! ## One layer -/

namespace Allocator

/-- Return every parked block in the given order and trim the allocator below. -/
def drainBy (inner : Allocator σ) (order : DrainOrder σ) (s : Recycling σ) :
    Return (Recycling σ) :=
  ((inner.freeAll (order.blocks s) s.inner).bind inner.trim).map (Recycling.mk [])

/-- Ask the allocator below, and after a refusal drain in the given order and ask once
    more. -/
def allocBelowBy (inner : Allocator σ) (order : DrainOrder σ) (size : Nat) (zeroed : Bool)
    (s : Recycling σ) : Grant × Recycling σ :=
  match inner.alloc size zeroed s.inner with
  | (.error (.error first), state) =>
    match inner.drainBy order { s with inner := state } with
    | .trapped drained => (.error .trap, drained)
    | .done drained =>
      match inner.alloc size zeroed drained.inner with
      | (.error (.error _), state) => (.error (.error first), { drained with inner := state })
      | (answer, state) => (answer, { drained with inner := state })
  | (answer, state) => (answer, { s with inner := state })

/-- The recycling layer that drains in the given order. -/
def recyclingBy (order : DrainOrder σ) (capacity : Nat) (inner : Allocator σ) :
    Allocator (Recycling σ) :=
  { inner.recycling capacity with
    alloc := fun size zeroed s =>
      match Parked.take? size s.parked with
      | some (block, others) =>
        (.ok (if zeroed then block.cleared else block), { s with parked := others })
      | none => inner.allocBelowBy order size zeroed s
    trim := inner.drainBy order }

theorem recycling_eq (inner : Allocator σ) (capacity : Nat) :
    inner.recycling capacity = inner.recyclingBy .oldestFirst capacity := rfl

end Allocator

/-! ## Lists of layers -/

/-- An order for each recycling layer of a list. -/
def DrainOrders (σ : Type) : List Layer → Type
  | [] => Unit
  | .metered :: layers => DrainOrders σ layers
  | .recycling _ :: layers => DrainOrder (Layered σ layers) × DrainOrders σ layers

/-- The same layers over another state of the base. -/
def Layered.map (f : σ → τ) : (layers : List Layer) → Layered σ layers → Layered τ layers
  | [] => f
  | .metered :: layers => Metered.map (map f layers)
  | .recycling _ :: layers => Recycling.map (map f layers)

namespace DrainOrders

/-- Every layer drains oldest first. -/
def oldestFirst : (layers : List Layer) → DrainOrders σ layers
  | [] => ()
  | .metered :: layers => oldestFirst layers
  | .recycling _ :: layers => (DrainOrder.oldestFirst, oldestFirst layers)

/-- The same orders over a base whose states show more. -/
def comap (f : τ → σ) : (layers : List Layer) → DrainOrders σ layers → DrainOrders τ layers
  | [], _ => ()
  | .metered :: layers, orders => comap f layers orders
  | .recycling _ :: layers, orders =>
    (DrainOrder.comap (Layered.map f layers) (Prod.fst orders), comap f layers (Prod.snd orders))

end DrainOrders

/-- The allocator under a list of layers that drain in the given orders. -/
def Allocator.layeredBy (base : Allocator σ) :
    (layers : List Layer) → DrainOrders σ layers → Allocator (Layered σ layers)
  | [], _ => base
  | .metered :: layers, orders => (base.layeredBy layers orders).metered
  | .recycling capacity :: layers, orders =>
    (base.layeredBy layers (Prod.snd orders)).recyclingBy (Prod.fst orders) capacity

theorem Allocator.layered_eq (base : Allocator σ) :
    (layers : List Layer) → base.layered layers = base.layeredBy layers (.oldestFirst layers)
  | [] => rfl
  | .metered :: layers => congrArg Allocator.metered (base.layered_eq layers)
  | .recycling capacity :: layers =>
    (congrArg (Allocator.recycling capacity) (base.layered_eq layers)).trans (recycling_eq ..)

end DeviceMemory
