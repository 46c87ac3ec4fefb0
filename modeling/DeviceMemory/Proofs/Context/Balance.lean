-- SUMMARY: Contexts keep the store balanced: a context is a handle to its pool.
import DeviceMemory.Context.Basic
import DeviceMemory.Proofs.Pool.Balance

/-!
# Contexts and holdings

Setting up a context adds a handle to a new pool. Tearing it down empties the
pool but keeps the handle, which goes when the context is dropped. Registries
hold nothing: an allocator lives as long as the store.
-/

namespace DeviceMemory

open DeviceMemory.Action

variable {h : Holdings} {s : Store}

/-! ## Registries -/

theorem Registry.triple_build (device : Device) (capacity : Nat) :
    Triple (Holds h) (build device capacity) (fun _ => Holds h) (Holds h) := by
  cases device with
  | cpu =>
    intro s hs
    exact Store.Balanced.addStack hs .host _
  | cuda ordinal => exact triple_fail (fun _ hs => hs) _

theorem Registry.triple_get (r : Registry) (device : Device) (capacity : Nat) :
    Triple (Holds h) (r.get device capacity) (fun _ => Holds h) (Holds h) := by
  unfold get
  split
  next => exact Triple.pure fun _ hs => hs
  next => exact Triple.bind (triple_build device capacity) fun id => Triple.pure fun _ hs => hs

/-! ## Contexts -/

namespace Context

/-- What a context holds. -/
def holdings (c : Context) : Holdings := .pool c.pool

theorem triple_setUp (registry : Registry) (config : Config) :
    Triple (Holds h) (setUp registry config) (fun result => Holds (h + result.1.holdings))
      (Holds h) := by
  refine Triple.bind (triple_ensure fun _ hs => hs) fun _ => ?_
  refine Triple.bind (registry.triple_get config.device config.cacheCapacity) fun result => ?_
  refine Triple.via (fun pool => Holds (h + .pool pool)) (triple_total ?_) fun pool => ?_
  · intro s hs
    exact Store.Balanced.addPool hs _ _
  refine Triple.via (fun _ => Holds (h + .pool pool)) (triple_update ?_)
    fun _ => Triple.pure fun _ hs => hs
  intro s hs
  exact Store.Balanced.record hs _

end Context

namespace Store

theorem Balanced.releaseContext (hs : s.Balanced h) (c : Context) : (c.release s).Balanced h := by
  unfold Context.release
  split
  next => exact hs
  next => exact (hs.clearPool c.pool).trim c.allocator

theorem Balanced.tearDown (hs : s.Balanced h) (c : Context) : (c.tearDown s).2.Balanced h := by
  unfold Context.tearDown
  simp only
  split
  next => exact (hs.releaseContext c).record _
  next => exact hs.releaseContext c

theorem Balanced.dropContext {c : Context} (hs : s.Balanced (h + c.holdings)) :
    (c.drop s).Balanced h := by
  unfold Context.drop
  simp only
  split
  next => exact hs.dropPoolHandle
  next => exact (hs.tearDown c).dropPoolHandle

end Store

end DeviceMemory
