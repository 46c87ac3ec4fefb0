-- SUMMARY: A request that is refused changes nothing but the cache, which it empties, and has asked the allocator below twice.
import DeviceMemory.Proofs.Allocator.Books
import DeviceMemory.Proofs.Store.Grants

/-!
# Refused requests

A recycling layer that is refused below gives back all that it has parked and asks
again. That changes the counters of a meter below it twice over, and still a request that
is refused in the end only empties the cache: what is live afterwards is what clients
held before, and neither the peak nor the number of grants is different
(`refusal_only_empties`). Nothing is assumed of the base but that its blocks have the size
asked for. It may trap on any request or on what it takes back, and it may refuse a request
at first and grant it then. The layer may drain in any order, and in another one on every
request before.

How often the allocator below is asked is seen on the same layer over a `recorded`
allocator, which writes its answers down and is otherwise the same
(`Requested.recorded`).
-/

namespace DeviceMemory

/-! ## Recorded answers -/

/-- A state with the answers to the requests that led to it. -/
structure Recorded (σ : Type) where
  asked : List Grant
  inner : σ

/-- A recycling layer over a recorded state. -/
def Recycling.recorded {σ : Type} (s : Recycling σ) (asked : List Grant) :
    Recycling (Recorded σ) :=
  ⟨s.parked, asked, s.inner⟩

namespace Allocator

variable {σ : Type} {a : Allocator σ} {start : σ} {Accounts : σ → Multiset Tag → Prop}
  {size : Nat} {zeroed : Bool} {answer : Grant} {asked : List Grant}

/-- The allocator, which writes its answers down. -/
def recorded (inner : Allocator σ) : Allocator (Recorded σ) where
  name := inner.name
  alloc size zeroed s :=
    let (answer, state) := inner.alloc size zeroed s.inner
    (answer, ⟨s.asked ++ [answer], state⟩)
  free block s := (inner.free block s.inner).map (Recorded.mk s.asked)
  trim s := (inner.trim s.inner).map (Recorded.mk s.asked)
  usage s := inner.usage s.inner

theorem alloc_recorded {s s' : σ} (h : a.alloc size zeroed s = (answer, s'))
    (asked : List Grant) :
    a.recorded.alloc size zeroed ⟨asked, s⟩ = (answer, ⟨asked ++ [answer], s'⟩) := by
  simp only [recorded, h]

theorem freeAll_recorded (blocks : List Block) (asked : List Grant) (s : σ) :
    a.recorded.freeAll blocks ⟨asked, s⟩ = (a.freeAll blocks s).map (Recorded.mk asked) := by
  induction blocks generalizing s with
  | nil => rfl
  | cons b blocks ih =>
    simp only [freeAll, recorded]
    cases a.free b s with
    | done state => exact ih state
    | trapped state => rfl

/-- The layer over a recorded allocator that drains as it does over the allocator itself. -/
def recordedLayer (inner : Allocator σ) (order : DrainOrder σ) (capacity : Nat) :
    Allocator (Recycling (Recorded σ)) :=
  inner.recorded.recyclingBy (order.comap Recorded.inner) capacity

/-- Nothing is asked in a drain. -/
theorem drainBy_recorded (order : DrainOrder σ) (s : Recycling σ) (asked : List Grant) :
    a.recorded.drainBy (order.comap Recorded.inner) (s.recorded asked) =
      (a.drainBy order s).map (·.recorded asked) := by
  have hblocks : (order.comap Recorded.inner).blocks (s.recorded asked) = order.blocks s := rfl
  rw [drainBy, hblocks]
  simp only [drainBy, Recycling.recorded, freeAll_recorded]
  cases a.freeAll (order.blocks s) s.inner with
  | done state =>
    simp only [Return.map, Return.bind, recorded]
    cases a.trim state <;> rfl
  | trapped state => rfl

/-! ## Requests -/

/-- Recording makes no difference, and these are the answers that are recorded. -/
theorem Requested.recorded {order : DrainOrder σ} {capacity : Nat} {s s' : Recycling σ}
    (h : Requested a order size zeroed s answer s' asked) :
    (a.recordedLayer order capacity).alloc size zeroed (s.recorded []) =
      (answer, s'.recorded asked) := by
  have hdrained {state : σ} {ended : Return (Recycling σ)}
      (hdrain : a.drainBy order ⟨s.parked, state⟩ = ended) (asked : List Grant) :
      a.recorded.drainBy (order.comap Recorded.inner) ⟨s.parked, asked, state⟩ =
        ended.map (·.recorded asked) :=
    hdrain ▸ drainBy_recorded order ⟨s.parked, state⟩ asked
  simp only [recordedLayer, recyclingBy]
  cases h with
  | served htake => simp only [Recycling.recorded, htake]
  | answered hnone halloc hanswer =>
    simp only [Recycling.recorded, hnone, allocBelowBy, alloc_recorded halloc, List.nil_append]
  | stopped hnone halloc hdrain =>
    simp only [Recycling.recorded, hnone, allocBelowBy, alloc_recorded halloc, hdrained hdrain,
      Return.map, List.nil_append]
  | refused hnone halloc hdrain hretry =>
    simp only [Recycling.recorded, hnone, allocBelowBy, alloc_recorded halloc, hdrained hdrain,
      Return.map, alloc_recorded hretry, List.nil_append, List.cons_append]
  | retried hnone halloc hdrain hretry hanswer =>
    simp only [Recycling.recorded, hnone, allocBelowBy, alloc_recorded halloc, hdrained hdrain,
      Return.map, alloc_recorded hretry, List.nil_append, List.cons_append]

end Allocator

/-! ## Meters -/

namespace Allocator

variable {σ : Type} {base : Allocator σ} {start : σ} {order : DrainOrder (Metered σ)}
  {size capacity : Nat} {zeroed : Bool} {answer : Grant} {asked : List Grant}
  {held : Multiset Tag}

/-- A refusal and the drain after it leave the past as it is, and nothing parked. -/
theorem samePast_of_drainBy {s drained : Recycling (Metered σ)} {state : Metered σ}
    {cause : DeviceError}
    (halloc : base.metered.alloc size zeroed s.inner = (.error (.error cause), state))
    (hdrain : base.metered.drainBy order ⟨s.parked, state⟩ = .done drained) :
    drained.parked = [] ∧ s.inner.meter.SamePast drained.inner.meter := by
  have hstate : s.inner.meter.SamePast state.meter := (of_metered_refusal halloc).2 ▸ ⟨rfl, rfl⟩
  exact @Settles.drainBy _ _ _ (settles_samePast s.inner.meter) order _ _ _ 0 hstate hdrain

/-! ## Usage -/

/-- The books of a recycling layer over a meter, over any base. -/
abbrev CountedAccounts : Recycling (Metered σ) → Multiset Tag → Prop :=
  RecyclingAccounts (MeteredAccounts fun _ _ => True)

/-- They are kept over a base whose blocks have the size asked for. -/
theorem keeps_counted
    (hsized : ∀ {size zeroed s block s'}, base.alloc size zeroed s = (.ok block, s') →
      block.size = size) (order : DrainOrder (Metered σ)) (capacity : Nat) :
    (base.metered.recyclingBy order capacity).Keeps CountedAccounts := by
  have hbase : base.Keeps fun _ _ => True :=
    ⟨⟨fun _ _ => trivial, fun _ _ => trivial⟩, fun _ h => ⟨hsized h, trivial⟩, fun _ _ => trivial⟩
  exact hbase.metered.recyclingBy order capacity

/-- The usage after a request was refused, with so many blocks live before. Blocks are counted
    in a word. -/
structure Emptied (blocks : Nat) (before after : Usage) : Prop where
  liveBytes : after.liveBytes = before.outstandingBytes
  liveBuffers : blocks < Word.limit → after.liveBuffers = before.outstandingBuffers
  peakBytes : after.peakBytes = before.peakBytes
  totalAllocations : after.totalAllocations = before.totalAllocations
  cached : after.cachedBuffers = 0 ∧ after.cachedBytes = 0

/-- The usage after a request was granted at its second attempt, with so many blocks live
    before. -/
structure Grown (blocks size : Nat) (before after : Usage) : Prop where
  outstandingBytes : after.outstandingBytes = before.outstandingBytes + size
  outstandingBuffers : blocks + 1 < Word.limit →
    after.outstandingBuffers = before.outstandingBuffers + 1
  totalAllocations : after.totalAllocations = Word.wrapAdd before.totalAllocations 1
  cached : after.cachedBuffers = 0 ∧ after.cachedBytes = 0

namespace CountedAccounts

variable {s s' : Recycling (Metered σ)}

theorem liveBytes (hs : CountedAccounts s held) :
    ((base.metered.recycling capacity).usage s).liveBytes =
      Tag.total (Parked.tags s.parked) + Tag.total held :=
  hs.1.bytes.trans (Tag.total_add _ _)

theorem liveBuffers (hs : CountedAccounts s held)
    (hcount : s.parked.length + held.card < Word.limit) :
    ((base.metered.recycling capacity).usage s).liveBuffers = s.parked.length + held.card := by
  have hbuffers := hs.1.buffers
  rw [Multiset.card_add, Parked.card_tags, Nat.mod_eq_of_lt hcount] at hbuffers
  exact hbuffers

theorem outstandingBytes (hs : CountedAccounts s held) :
    ((base.metered.recycling capacity).usage s).outstandingBytes = Tag.total held := by
  have hcached : ((base.metered.recycling capacity).usage s).cachedBytes =
      Tag.total (Parked.tags s.parked) := (Parked.total_tags s.parked).symm
  rw [Usage.outstandingBytes, hs.liveBytes, hcached, Nat.add_sub_cancel_left]

theorem outstandingBuffers (hs : CountedAccounts s held)
    (hcount : s.parked.length + held.card < Word.limit) :
    ((base.metered.recycling capacity).usage s).outstandingBuffers = held.card := by
  rw [Usage.outstandingBuffers, hs.liveBuffers hcount]
  exact Nat.add_sub_cancel_left ..

/-- Once nothing is parked, what is live is what clients hold. -/
theorem emptied (hs : CountedAccounts s held) (hs' : CountedAccounts s' held)
    (hparked : s'.parked = []) (hpast : s.inner.meter.SamePast s'.inner.meter) :
    Emptied (s.parked.length + held.card) ((base.metered.recycling capacity).usage s)
      ((base.metered.recycling capacity).usage s') where
  liveBytes := by
    rw [hs'.liveBytes, hparked, hs.outstandingBytes, Parked.tags_nil, Tag.total_zero, Nat.zero_add]
  liveBuffers hcount := by
    have hcount' : s'.parked.length + held.card < Word.limit := by
      rw [hparked]
      exact Nat.lt_of_le_of_lt (Nat.add_le_add_right (Nat.zero_le _) _) hcount
    rw [hs'.liveBuffers hcount', hparked, hs.outstandingBuffers hcount, List.length_nil,
      Nat.zero_add]
  peakBytes := hpast.peak
  totalAllocations := hpast.total
  cached := by
    simp only [Allocator.recycling, hparked]
    exact ⟨rfl, rfl⟩

/-- A grant is one more block that clients hold. -/
theorem grown {block : Block} (hs : CountedAccounts s held)
    (hs' : CountedAccounts s' (block.tag ::ₘ held)) (hparked : s'.parked = [])
    (htotal : s'.inner.meter.totalAllocations =
      Word.wrapAdd s.inner.meter.totalAllocations 1) :
    Grown (s.parked.length + held.card) block.size ((base.metered.recycling capacity).usage s)
      ((base.metered.recycling capacity).usage s') where
  outstandingBytes := by
    rw [hs'.outstandingBytes, hs.outstandingBytes, Tag.total_cons, Block.tag_size, Nat.add_comm]
  outstandingBuffers hcount := by
    have hcount' : s'.parked.length + (block.tag ::ₘ held).card < Word.limit := by
      rw [hparked, List.length_nil, Multiset.card_cons]
      omega
    rw [hs'.outstandingBuffers hcount', hs.outstandingBuffers (Nat.lt_of_succ_lt hcount),
      Multiset.card_cons]
  totalAllocations := htotal
  cached := by
    simp only [Allocator.recycling, hparked]
    exact ⟨rfl, rfl⟩

end CountedAccounts

/-- Over any base whose blocks have the size asked for, and in every state that requests lead to,
    a request that is refused has asked the meter twice and ends with its first answer. It
    has emptied the cache, so what is live is what clients hold, and nothing else is counted
    differently. One that is granted at the second attempt has emptied the cache as well and
    is counted as one more block that clients hold. One for which a block of the size is
    parked asks nothing. The layer drains in any order, and may have drained in any other order
    on each request that led to the state. -/
theorem refusal_only_empties
    (hsized : ∀ {size zeroed s block s'}, base.alloc size zeroed s = (.ok block, s') →
      block.size = size)
    {s s' : Recycling (Metered σ)}
    (hs : Histories (fun order => base.metered.recyclingBy order capacity) ⟨[], .zero, start⟩ s
      held)
    (h : (base.metered.recyclingBy order capacity).alloc size zeroed s = (answer, s')) :
    ∃ asked,
      (base.metered.recordedLayer order capacity).alloc size zeroed (s.recorded []) =
        (answer, s'.recorded asked) ∧
      (∀ cause, answer = .error (.error cause) →
        (∃ second, asked = [.error (.error cause), .error (.error second)]) ∧ s'.parked = [] ∧
        Emptied (s.parked.length + held.card) ((base.metered.recycling capacity).usage s)
          ((base.metered.recycling capacity).usage s')) ∧
      (∀ first block, asked = [.error (.error first), .ok block] →
        answer = .ok block ∧ block.size = size ∧ s'.parked = [] ∧
        Grown (s.parked.length + held.card) size ((base.metered.recycling capacity).usage s)
          ((base.metered.recycling capacity).usage s')) ∧
      (Parked.ofSize size s.parked ≠ [] → asked = [] ∧ s'.inner = s.inner) := by
  have hkeeps (order : DrainOrder (Metered σ)) :
      (base.metered.recyclingBy order capacity).Keeps CountedAccounts :=
    keeps_counted hsized order capacity
  have hbooks : CountedAccounts s held := hs.keep hkeeps ⟨Meter.Counts.zero, trivial⟩
  obtain ⟨asked, hrequested⟩ := requestedBy h
  refine ⟨asked, hrequested.recorded, ?_, ?_, ?_⟩
  · rintro cause rfl
    have hbooks' : CountedAccounts s' held := (hkeeps order).refusal hbooks h
    cases hrequested with
    | answered _ _ hanswer => exact absurd rfl (hanswer cause)
    | retried _ _ _ _ hanswer => exact absurd rfl (hanswer cause)
    | @refused _ second _ _ drained _ halloc hdrain hretry =>
      obtain ⟨hparked, hpast⟩ := samePast_of_drainBy halloc hdrain
      have hmeter := (of_metered_refusal hretry).2
      exact ⟨⟨second, rfl⟩, hparked, hbooks.emptied hbooks' hparked (hmeter ▸ hpast)⟩
  · rintro first block rfl
    cases hrequested with
    | retried _ halloc hdrain hretry hanswer =>
      obtain ⟨hparked, hpast⟩ := samePast_of_drainBy halloc hdrain
      obtain ⟨peak, -, -, hmeter⟩ := of_metered_grant hretry
      obtain ⟨hsize, hbooks'⟩ := (hkeeps order).grant hbooks h
      refine ⟨rfl, hsize, hparked, hsize ▸ hbooks.grown hbooks' hparked ?_⟩
      simp only [hmeter, Meter.count, hpast.total]
  · intro hparked
    cases hrequested with
    | served _ => exact ⟨rfl, rfl⟩
    | _ hnone => exact absurd (Parked.take?_eq_none_iff.mp hnone) hparked

/-- Sixteen bytes, of which a client holds half, and the other half is parked. -/
def halfParked : Recycling (Metered Quota) :=
  ⟨[⟨1, List.replicate 8 0⟩], ⟨2, 16, 16, 2⟩, ⟨16, 2⟩⟩

/-- Sixteen bytes, all parked in two halves. -/
def bothParked : Recycling (Metered Quota) :=
  ⟨[⟨0, List.replicate 8 0⟩, ⟨1, List.replicate 8 0⟩], ⟨2, 16, 16, 2⟩, ⟨16, 2⟩⟩

/-- A request for sixteen bytes is refused in the first state. In the other it is granted at the
    second attempt, here by the layer that drains newest first. -/
theorem refusal_only_empties_sixteen :
    (∃ s' cause second,
      ((limit 16).metered.recorded.recycling 2).alloc 16 false (halfParked.recorded []) =
        (.error (.error cause), s'.recorded [.error (.error cause), .error (.error second)]) ∧
      s'.parked = [] ∧
      Emptied 2 (((limit 16).metered.recycling 2).usage halfParked)
        (((limit 16).metered.recycling 2).usage s')) ∧
    ∃ s' first block,
      ((limit 16).metered.recordedLayer .newestFirst 2).alloc 16 false (bothParked.recorded []) =
        (.ok block, s'.recorded [.error (.error first), .ok block]) ∧
      s'.parked = [] ∧
      Grown 2 16 (((limit 16).metered.recycling 2).usage bothParked)
        (((limit 16).metered.recycling 2).usage s') := by
  have hsized : ∀ {size zeroed s block s'}, (limit 16).alloc size zeroed s = (.ok block, s') →
      block.size = size := fun h => (fresh_limit 16 h).1
  let layer (order : DrainOrder (Metered Quota)) := (limit 16).metered.recyclingBy order 2
  have hone : Histories layer ⟨[], .zero, ⟨0, 0⟩⟩ ⟨[], ⟨1, 8, 8, 1⟩, ⟨8, 1⟩⟩ {⟨0, 8⟩} :=
    .grant DrainOrder.oldestFirst .start
      (show (layer .oldestFirst).alloc 8 false _ = (.ok ⟨0, List.replicate 8 0⟩, _) from rfl)
  have htwo : Histories layer ⟨[], .zero, ⟨0, 0⟩⟩ ⟨[], ⟨2, 16, 16, 2⟩, ⟨16, 2⟩⟩
      (⟨1, 8⟩ ::ₘ {⟨0, 8⟩}) :=
    .grant DrainOrder.newestFirst hone
      (show (layer .newestFirst).alloc 8 false _ = (.ok ⟨1, List.replicate 8 0⟩, _) from rfl)
  have hhalf : Histories layer ⟨[], .zero, ⟨0, 0⟩⟩ halfParked {⟨0, 8⟩} :=
    .free DrainOrder.oldestFirst htwo
      (show (layer .oldestFirst).free ⟨1, List.replicate 8 0⟩ _ = _ from rfl)
  have hboth : Histories layer ⟨[], .zero, ⟨0, 0⟩⟩ bothParked 0 :=
    .free DrainOrder.oldestFirst hhalf
      (show (layer .oldestFirst).free ⟨0, List.replicate 8 0⟩ _ = _ from rfl)
  constructor
  · obtain ⟨asked, hrecorded, hrefused, -⟩ := refusal_only_empties hsized hhalf
      (show (layer .oldestFirst).alloc 16 false halfParked = (.error (.error _), _) from rfl)
    obtain ⟨⟨second, rfl⟩, hparked, hemptied⟩ := hrefused _ rfl
    exact ⟨_, _, second, hrecorded, hparked, hemptied⟩
  · obtain ⟨asked, hrecorded, -, hretried, -⟩ := refusal_only_empties hsized hboth
      (show (layer .newestFirst).alloc 16 false bothParked =
        (.ok ⟨2, List.replicate 16 0⟩, ⟨[], ⟨1, 16, 16, 3⟩, ⟨16, 3⟩⟩) from rfl)
    have hasked : asked = [.error (.error (.allocationFailed "CPU" 16 "16 of 16 bytes in use")),
        .ok ⟨2, List.replicate 16 0⟩] :=
      congrArg (fun run => run.2.inner.asked) (hrecorded.symm.trans rfl)
    subst hasked
    obtain ⟨-, -, hparked, hgrown⟩ := hretried _ _ rfl
    exact ⟨_, _, _, hrecorded, hparked, hgrown⟩

end Allocator

end DeviceMemory
