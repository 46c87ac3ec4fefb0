-- SUMMARY: How a request to a recycling layer can end, and books that layers keep whatever the order of their drains.
import DeviceMemory.Proofs.Allocator.Limited

/-!
# Books of layers

Books of what an allocator has granted and not taken back are kept by its layers: a
meter counts what is owed below it, a recycling layer owes below what it has parked
besides what clients hold. That needs nothing of the allocator but that it keeps books
itself (`Keeps.metered`, `Keeps.recyclingBy`, `Keeps.layeredBy`). It may trap on any request
and on what it takes back, and the layers may drain in any order. What goes back changes none
of the counters that tell of the past (`Meter.SamePast`).
-/

namespace DeviceMemory

namespace Allocator

variable {σ : Type} {a : Allocator σ} {Accounts : σ → Multiset Tag → Prop} {size : Nat}
  {zeroed : Bool} {answer : Grant} {asked : List Grant}

/-! ## Requests -/

/-- How a request to a recycling layer ends, in which state, and after which answers of the
    allocator below. -/
inductive Requested (a : Allocator σ) (order : DrainOrder σ) (size : Nat) (zeroed : Bool)
    (s : Recycling σ) : Grant → Recycling σ → List Grant → Prop
  /-- A parked block is handed out, -/
  | served {b : Block} {others : List Block}
      (htake : Parked.take? size s.parked = some (b, others)) :
      Requested a order size zeroed s (.ok (if zeroed then b.cleared else b))
        { s with parked := others } []
  /-- or there is none, and the allocator below grants one or traps, -/
  | answered {answer : Grant} {state : σ} (hnone : Parked.take? size s.parked = none)
      (halloc : a.alloc size zeroed s.inner = (answer, state))
      (hanswer : ∀ cause, answer ≠ .error (.error cause)) :
      Requested a order size zeroed s answer { s with inner := state } [answer]
  /-- or it refuses, and does not take back what is parked, -/
  | stopped {first : DeviceError} {state : σ} {drained : Recycling σ}
      (hnone : Parked.take? size s.parked = none)
      (halloc : a.alloc size zeroed s.inner = (.error (.error first), state))
      (hdrain : a.drainBy order ⟨s.parked, state⟩ = .trapped drained) :
      Requested a order size zeroed s (.error .trap) drained [.error (.error first)]
  /-- or it does, and refuses again, -/
  | refused {first second : DeviceError} {state state' : σ} {drained : Recycling σ}
      (hnone : Parked.take? size s.parked = none)
      (halloc : a.alloc size zeroed s.inner = (.error (.error first), state))
      (hdrain : a.drainBy order ⟨s.parked, state⟩ = .done drained)
      (hretry : a.alloc size zeroed drained.inner = (.error (.error second), state')) :
      Requested a order size zeroed s (.error (.error first)) { drained with inner := state' }
        [.error (.error first), .error (.error second)]
  /-- or does not. -/
  | retried {first : DeviceError} {answer : Grant} {state state' : σ} {drained : Recycling σ}
      (hnone : Parked.take? size s.parked = none)
      (halloc : a.alloc size zeroed s.inner = (.error (.error first), state))
      (hdrain : a.drainBy order ⟨s.parked, state⟩ = .done drained)
      (hretry : a.alloc size zeroed drained.inner = (answer, state'))
      (hanswer : ∀ cause, answer ≠ .error (.error cause)) :
      Requested a order size zeroed s answer { drained with inner := state' }
        [.error (.error first), answer]

theorem requestedBy {order : DrainOrder σ} {capacity : Nat} {s s' : Recycling σ}
    (h : (a.recyclingBy order capacity).alloc size zeroed s = (answer, s')) :
    ∃ asked, Requested a order size zeroed s answer s' asked := by
  simp only [recyclingBy] at h
  split at h
  next b others htake =>
    cases h
    exact ⟨_, .served htake⟩
  next hnone =>
    simp only [allocBelowBy] at h
    split at h
    next first state halloc =>
      split at h
      next drained hdrain =>
        cases h
        exact ⟨_, .stopped hnone halloc hdrain⟩
      next drained hdrain =>
        split at h
        next second state' hretry =>
          cases h
          exact ⟨_, .refused hnone halloc hdrain hretry⟩
        next other state' hother hretry =>
          cases h
          exact ⟨_, .retried hnone halloc hdrain hretry hother⟩
    next other state hother halloc =>
      cases h
      exact ⟨_, .answered hnone halloc hother⟩

/-! ## What a meter does -/

theorem of_metered_grant {s s' : Metered σ} {block : Block}
    (h : a.metered.alloc size zeroed s = (.ok block, s')) :
    ∃ peak, a.alloc size zeroed s.inner = (.ok block, s'.inner) ∧
      s.meter.liveBytes + size < Word.limit ∧
      s'.meter = { s.meter.count size with peakBytes := peak } := by
  simp only [metered] at h
  split at h
  next => cases h
  next granted state halloc =>
    split at h
    next => cases h
    next live hlive =>
      obtain ⟨hgranted, rfl⟩ := Prod.mk.inj h
      exact ⟨_, hgranted ▸ halloc, (Word.add?_eq_some_iff.mp hlive).1, rfl⟩

theorem of_metered_refusal {s s' : Metered σ} {cause : DeviceError}
    (h : a.metered.alloc size zeroed s = (.error (.error cause), s')) :
    a.alloc size zeroed s.inner = (.error (.error cause), s'.inner) ∧ s'.meter = s.meter := by
  simp only [metered] at h
  split at h
  next fault state halloc =>
    cases h
    exact ⟨halloc, rfl⟩
  next => split at h <;> cases h

theorem of_metered_free {s s' : Metered σ} {block : Block}
    (h : a.metered.free block s = .done s') :
    a.free block s.inner = .done s'.inner ∧ s'.meter = s.meter.uncount block.size := by
  simp only [metered] at h
  split at h
  next state hfree =>
    obtain rfl := Return.done.inj h
    exact ⟨hfree, rfl⟩
  next => cases h

theorem of_metered_trim {s s' : Metered σ} (h : a.metered.trim s = .done s') :
    a.trim s.inner = .done s'.inner ∧ s'.meter = s.meter := by
  simp only [metered] at h
  rcases htrim : a.trim s.inner with state | state
  · rw [htrim] at h
    cases h
    exact ⟨rfl, rfl⟩
  · rw [htrim] at h
    cases h

/-! ## Books -/

/-- A drain that ends has taken everything back, and then trimmed. -/
theorem of_drainBy {order : DrainOrder σ} {s s' : Recycling σ}
    (h : a.drainBy order s = .done s') :
    ∃ state state', a.freeAll (order.blocks s) s.inner = .done state ∧
      a.trim state = .done state' ∧ s' = ⟨[], state'⟩ := by
  simp only [drainBy] at h
  rcases hfreed : a.freeAll (order.blocks s) s.inner with state | state
  · rw [hfreed] at h
    simp only [Return.bind] at h
    rcases htrimmed : a.trim state with state' | state'
    · rw [htrimmed] at h
      cases h
      exact ⟨state, state', rfl, htrimmed, rfl⟩
    · rw [htrimmed] at h
      cases h
  · rw [hfreed] at h
    cases h

namespace Settles

theorem freeAll (ha : a.Settles Accounts) {s s' : σ} {blocks : List Block} {held : Multiset Tag}
    (hs : Accounts s (Parked.tags blocks + held)) (h : a.freeAll blocks s = .done s') :
    Accounts s' held := by
  induction blocks generalizing s with
  | nil =>
    cases h
    simpa using hs
  | cons b blocks ih =>
    rw [Parked.tags_cons, Multiset.cons_add] at hs
    rw [Allocator.freeAll] at h
    rcases hfree : a.free b s with state | state
    · rw [hfree] at h
      exact ih (ha.free hs hfree) h
    · rw [hfree] at h
      cases h

/-- A drain leaves what clients hold. -/
theorem drainBy (ha : a.Settles Accounts) {order : DrainOrder σ} {parked : List Block} {s : σ}
    {s' : Recycling σ} {held : Multiset Tag} (hs : Accounts s (Parked.tags parked + held))
    (h : a.drainBy order ⟨parked, s⟩ = .done s') : s'.parked = [] ∧ Accounts s'.inner held := by
  obtain ⟨state, state', hfreed, htrimmed, rfl⟩ := of_drainBy h
  rw [← Parked.tags_of_perm (order.perm ⟨parked, s⟩)] at hs
  exact ⟨rfl, ha.trim (ha.freeAll hs hfreed) htrimmed⟩

theorem metered (ha : a.Settles Accounts) : a.metered.Settles (MeteredAccounts Accounts) where
  free := by
    rintro s s' held block ⟨hcounts, hinner⟩ h
    obtain ⟨hfree, hmeter⟩ := of_metered_free h
    exact ⟨hmeter ▸ hcounts.uncount, ha.free hinner hfree⟩
  trim := by
    rintro s s' held ⟨hcounts, hinner⟩ h
    obtain ⟨htrim, hmeter⟩ := of_metered_trim h
    exact ⟨hmeter ▸ hcounts, ha.trim hinner htrim⟩

theorem recyclingBy (ha : a.Settles Accounts) (order : DrainOrder σ) (capacity : Nat) :
    (a.recyclingBy order capacity).Settles (RecyclingAccounts Accounts) where
  free := by
    intro s s' held block hs h
    rw [RecyclingAccounts, Multiset.add_cons] at hs
    simp only [Allocator.recyclingBy, Allocator.recycling] at h
    split at h
    next =>
      cases h
      rwa [RecyclingAccounts, Parked.tags_cons, Multiset.cons_add]
    next =>
      rcases hfree : a.free block s.inner with state | state <;> rw [hfree] at h <;> cases h
      exact ha.free hs hfree
  trim := by
    intro s s' held hs h
    obtain ⟨hparked, hinner⟩ := ha.drainBy hs h
    rwa [RecyclingAccounts, hparked, Parked.tags_nil, zero_add]

end Settles

namespace Keeps

theorem metered (ha : a.Keeps Accounts) : a.metered.Keeps (MeteredAccounts Accounts) where
  toSettles := ha.toSettles.metered
  grant := by
    rintro s s' held size zeroed block ⟨hcounts, hinner⟩ h
    obtain ⟨peak, halloc, hfits, hmeter⟩ := of_metered_grant h
    obtain ⟨hsize, hstate⟩ := ha.grant hinner halloc
    have htag : block.tag.size = size := hsize
    have hcounts' := (hcounts.count (htag ▸ hfits)).withPeak peak
    exact ⟨hsize, hmeter ▸ htag ▸ hcounts', hstate⟩
  refusal := by
    rintro s s' held size zeroed cause ⟨hcounts, hinner⟩ h
    obtain ⟨halloc, hmeter⟩ := of_metered_refusal h
    exact ⟨hmeter ▸ hcounts, ha.refusal hinner halloc⟩

/-- A block that is handed out again was owed below before. -/
theorem recyclingBy (ha : a.Keeps Accounts) (order : DrainOrder σ) (capacity : Nat) :
    (a.recyclingBy order capacity).Keeps (RecyclingAccounts Accounts) where
  toSettles := ha.toSettles.recyclingBy order capacity
  grant := by
    intro s s' held size zeroed block hs h
    obtain ⟨asked, h⟩ := requestedBy h
    cases h with
    | served htake =>
      obtain ⟨hsize, htags⟩ := Parked.tags_of_take? htake
      have htag := Block.tag_ite_cleared zeroed
      refine ⟨(congrArg Tag.size (htag _)).trans hsize, ?_⟩
      rwa [RecyclingAccounts, htag, Multiset.add_cons, ← Multiset.cons_add, ← htags]
    | answered _ halloc _ =>
      obtain ⟨hsize, hstate⟩ := ha.grant hs halloc
      exact ⟨hsize, by rwa [RecyclingAccounts, Multiset.add_cons]⟩
    | retried _ halloc hdrain hretry _ =>
      obtain ⟨hparked, hinner⟩ := ha.drainBy (ha.refusal hs halloc) hdrain
      obtain ⟨hsize, hstate⟩ := ha.grant hinner hretry
      exact ⟨hsize, by rwa [RecyclingAccounts, hparked, Parked.tags_nil, zero_add]⟩
  refusal := by
    intro s s' held size zeroed cause hs h
    obtain ⟨asked, h⟩ := requestedBy h
    cases h with
    | answered _ _ hanswer => exact absurd rfl (hanswer cause)
    | refused _ halloc hdrain hretry =>
      obtain ⟨hparked, hinner⟩ := ha.drainBy (ha.refusal hs halloc) hdrain
      have hstate := ha.refusal hinner hretry
      rwa [RecyclingAccounts, hparked, Parked.tags_nil, zero_add]
    | retried _ _ _ _ hanswer => exact absurd rfl (hanswer cause)

theorem layeredBy (ha : a.Keeps Accounts) :
    (layers : List Layer) → (orders : DrainOrders σ layers) →
      (a.layeredBy layers orders).Keeps (LayeredAccounts Accounts layers)
  | [], _ => ha
  | .metered :: layers, orders => (ha.layeredBy layers orders).metered
  | .recycling capacity :: layers, orders =>
    (ha.layeredBy layers (Prod.snd orders)).recyclingBy (Prod.fst orders) capacity

end Keeps

end Allocator

/-! ## What has been -/

/-- The counters of what has been: the peak and the number of grants. -/
structure Meter.SamePast (m m' : Meter) : Prop where
  peak : m'.peakBytes = m.peakBytes
  total : m'.totalAllocations = m.totalAllocations

/-- What goes back is no part of it. -/
theorem Meter.SamePast.uncount {m m' : Meter} (h : m.SamePast m') (size : Nat) :
    m.SamePast (m'.uncount size) :=
  ⟨by rw [peakBytes_uncount, h.peak], by rw [totalAllocations_uncount, h.total]⟩

theorem Allocator.settles_samePast {σ : Type} {base : Allocator σ} (m : Meter) :
    base.metered.Settles fun s _ => m.SamePast s.meter where
  free := by
    intro s s' held block hs h
    simp only [(of_metered_free h).2]
    exact Meter.SamePast.uncount hs block.size
  trim := by
    intro s s' held hs h
    simp only [(of_metered_trim h).2]
    exact hs

end DeviceMemory
