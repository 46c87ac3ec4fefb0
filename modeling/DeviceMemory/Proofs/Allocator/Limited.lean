-- SUMMARY: Layers over an allocator with a limit on bytes serve the requests that it serves itself, whatever they park and however they drain.
import DeviceMemory.Proofs.Allocator.Ledger

/-!
# Allocators with a limit

An allocator has a limit if it grants a request exactly when the bytes that it
has granted and not taken back leave room for it (`Allocator.Limited`). Blocks
that a layer parks count as granted below it, so the allocator below refuses
more than it would refuse its clients directly. The layer makes up for this: a
refusal drains it and asks again. Seen from above, every layer over an allocator
with a limit has the same limit itself (`Rationed.metered`,
`Rationed.recyclingBy`), and so has every stack, whatever its layers hold between
two requests and in whatever order they drain (`Rationed.layeredBy`).

Two clients of allocators with one limit that hold blocks of the same sizes are told
the same, and hold blocks of the same sizes after that (`Client.Alike.step`).
-/

namespace DeviceMemory

/-- The size that a refused request reports. -/
def DeviceError.requested? : DeviceError → Option Nat
  | .allocationFailed _ size _ => some size
  | _ => none

namespace Allocator

variable {ι σ : Type} {a : Allocator σ} {start : σ} {limit : Nat} {admits : Nat → Prop}

/-! ## Limits -/

/-- The states that requests lead to from `start`, with the blocks granted on the way and
    not given back. Each request is answered by one of several allocators, which stand for what
    a program leaves open. The contents of a block may change before it goes back. -/
inductive Histories (a : ι → Allocator σ) (start : σ) : σ → Multiset Tag → Prop where
  | start : Histories a start start 0
  | grant (i : ι) {s s' : σ} {held : Multiset Tag} {size : Nat} {zeroed : Bool} {block : Block}
      (hs : Histories a start s held) (halloc : (a i).alloc size zeroed s = (.ok block, s')) :
      Histories a start s' (block.tag ::ₘ held)
  | refusal (i : ι) {s s' : σ} {held : Multiset Tag} {size : Nat} {zeroed : Bool}
      {cause : DeviceError} (hs : Histories a start s held)
      (halloc : (a i).alloc size zeroed s = (.error (.error cause), s')) :
      Histories a start s' held
  | free (i : ι) {s s' : σ} {held : Multiset Tag} {block : Block}
      (hs : Histories a start s (block.tag ::ₘ held)) (hfree : (a i).free block s = .done s') :
      Histories a start s' held
  | trim (i : ι) {s s' : σ} {held : Multiset Tag} (hs : Histories a start s held)
      (htrim : (a i).trim s = .done s') : Histories a start s' held

/-- The histories of a single allocator. -/
abbrev History (a : Allocator σ) (start : σ) : σ → Multiset Tag → Prop :=
  Histories (fun _ : Unit => a) start

/-- A block of the size asked for where there is room, else a refusal that reports the
    size. -/
def Answered (room : Prop) (size : Nat) : Grant → Prop
  | .ok block => room ∧ block.size = size
  | .error (.error cause) => ¬room ∧ cause.requested? = some size
  | .error .trap => False

/-- After every history, requests are granted as long as they leave the bytes that were
    granted and not given back within the limit. Other sizes than those that `admits` may be
    refused always. -/
structure Limited (a : Allocator σ) (start : σ) (limit : Nat) (admits : Nat → Prop) : Prop where
  alloc : ∀ {s held}, a.History start s held → ∀ size zeroed,
    Answered (admits size ∧ size ≤ limit - Tag.total held) size (a.alloc size zeroed s).1
  free : ∀ {s held block}, a.History start s (block.tag ::ₘ held) →
    ∃ s', a.free block s = .done s'
  trim : ∀ {s held}, a.History start s held → ∃ s', a.trim s = .done s'

/-- Books of what was granted and not given back that are right after all that goes back and does
    not trap. -/
structure Settles (a : Allocator σ) (Accounts : σ → Multiset Tag → Prop) : Prop where
  free : ∀ {s s' held block}, Accounts s (block.tag ::ₘ held) → a.free block s = .done s' →
    Accounts s' held
  trim : ∀ {s s' held}, Accounts s held → a.trim s = .done s' → Accounts s' held

/-- They are right after every request as well, and blocks have the size asked for. -/
structure Keeps (a : Allocator σ) (Accounts : σ → Multiset Tag → Prop) : Prop
    extends a.Settles Accounts where
  grant : ∀ {s s' held size zeroed block}, Accounts s held →
    a.alloc size zeroed s = (.ok block, s') → block.size = size ∧ Accounts s' (block.tag ::ₘ held)
  refusal : ∀ {s s' held size zeroed cause}, Accounts s held →
    a.alloc size zeroed s = (.error (.error cause), s') → Accounts s' held

/-- Books that all the allocators keep are right after every history. -/
theorem Histories.keep {a : ι → Allocator σ} {Accounts : σ → Multiset Tag → Prop} {s : σ}
    {held : Multiset Tag} (hs : Histories a start s held) (ha : ∀ i, (a i).Keeps Accounts)
    (hstart : Accounts start 0) : Accounts s held := by
  induction hs with
  | start => exact hstart
  | grant i _ halloc ih => exact ((ha i).grant ih halloc).2
  | refusal i _ halloc ih => exact (ha i).refusal ih halloc
  | free i _ hfree ih => exact (ha i).free ih hfree
  | trim i _ htrim ih => exact (ha i).trim ih htrim

theorem Keeps.history {Accounts : σ → Multiset Tag → Prop} (ha : a.Keeps Accounts)
    (hstart : Accounts start 0) {s : σ} {held : Multiset Tag} (hs : a.History start s held) :
    Accounts s held :=
  hs.keep (fun _ => ha) hstart

theorem Ledger.keeps (l : Ledger a) : a.Keeps l.Accounts where
  grant := l.grant
  refusal := l.refusal
  free hs hfree := by
    obtain ⟨s', hdone, hs'⟩ := l.free hs
    cases hfree.symm.trans hdone
    exact hs'
  trim hs htrim := by
    obtain ⟨s', hdone, hs'⟩ := l.trim hs
    cases htrim.symm.trans hdone
    exact hs'

/-- Host memory with a limit on bytes is limited to them. Sizes that a process cannot
    address are refused always. -/
theorem limited_limit (bytes : Nat) :
    (Allocator.limit bytes).Limited ⟨0, 0⟩ bytes (HostMemory.refusal? · = none) := by
  have haccounts {s : Quota} {held : Multiset Tag}
      (hs : (Allocator.limit bytes).History ⟨0, 0⟩ s held) :
      (limitLedger bytes).Accounts s held :=
    (limitLedger bytes).keeps.history ⟨Placed.zero 0, rfl⟩ hs
  refine ⟨fun {s held} hs size zeroed => ?_, fun hs => ?_, fun _ => ⟨_, rfl⟩⟩
  · have hused : s.used = Tag.total held := (haccounts hs).2
    simp only [Allocator.limit, host, HostMemory.grant, ← hused]
    split
    next hfull =>
      refine ⟨fun hroom => ?_, rfl⟩
      omega
    next hroom =>
      split
      next block next hgrant =>
        split at hgrant
        next hok =>
          split at hok <;> cases hok
          next hadmits =>
            cases hgrant
            exact ⟨⟨hadmits, Nat.not_lt.mp hroom⟩, by simp [Block.size]⟩
        next => cases hgrant
      next fault next hgrant =>
        split at hgrant
        next => cases hgrant
        next hrefused =>
          split at hrefused <;> cases hrefused
          next hadmits =>
            cases hgrant
            refine ⟨fun hroom => ?_, rfl⟩
            rw [hroom.1] at hadmits
            cases hadmits
  · obtain ⟨s', hfree, -⟩ := (limitLedger bytes).free (haccounts hs)
    exact ⟨s', hfree⟩

/-! ## Layers -/

/-- The end of a request, with the books kept. -/
def Served (Accounts : σ → Multiset Tag → Prop) (room : Prop) (size : Nat)
    (held : Multiset Tag) : Grant × σ → Prop
  | (.ok block, s) => room ∧ block.size = size ∧ Accounts s (block.tag ::ₘ held)
  | (.error (.error cause), s) => ¬room ∧ cause.requested? = some size ∧ Accounts s held
  | (.error .trap, _) => False

/-- In states of which `Accounts` says what was granted and not given back, requests are
    granted as long as that stays within the limit. -/
structure Rationed (a : Allocator σ) (limit : Nat) (admits : Nat → Prop)
    (Accounts : σ → Multiset Tag → Prop) : Prop where
  within : ∀ {s held}, Accounts s held → Tag.total held ≤ limit ∧ ∀ t ∈ held, admits t.size
  alloc : ∀ {s held}, Accounts s held → ∀ size zeroed,
    Served Accounts (admits size ∧ size ≤ limit - Tag.total held) size held
      (a.alloc size zeroed s)
  free : ∀ {s held block}, Accounts s (block.tag ::ₘ held) →
    ∃ s', a.free block s = .done s' ∧ Accounts s' held
  trim : ∀ {s held}, Accounts s held → ∃ s', a.trim s = .done s' ∧ Accounts s' held

theorem Limited.served (ha : a.Limited start limit admits) {s : σ} {held : Multiset Tag}
    (hs : a.History start s held) (size : Nat) (zeroed : Bool) :
    Served (a.History start) (admits size ∧ size ≤ limit - Tag.total held) size held
      (a.alloc size zeroed s) := by
  have hanswered := ha.alloc hs size zeroed
  rcases halloc : a.alloc size zeroed s with ⟨(fault | block), s'⟩
  · rw [halloc] at hanswered
    cases fault with
    | error cause => exact ⟨hanswered.1, hanswered.2, hs.refusal () halloc⟩
    | trap => exact hanswered
  · rw [halloc] at hanswered
    exact ⟨hanswered.1, hanswered.2, hs.grant () halloc⟩

/-- An allocator with a limit knows from its history what is left of it. -/
theorem Limited.rationed (ha : a.Limited start limit admits) :
    a.Rationed limit admits (a.History start) where
  within := by
    intro s held hs
    induction hs with
    | start => exact ⟨Nat.zero_le limit, fun t ht => absurd ht (Multiset.notMem_zero t)⟩
    | @grant _ s s' held size zeroed block hs halloc ih =>
      have hserved := ha.served hs size zeroed
      rw [halloc] at hserved
      obtain ⟨⟨hadmits, hroom⟩, hsize, -⟩ := hserved
      rw [← hsize, ← Block.tag_size] at hadmits hroom
      refine ⟨?_, fun t ht => ?_⟩
      · rw [Tag.total_cons]
        have hle := ih.1
        omega
      · rcases Multiset.mem_cons.mp ht with rfl | ht
        · exact hadmits
        · exact ih.2 t ht
    | refusal _ hs halloc ih => exact ih
    | free _ hs hfree ih =>
      rw [Tag.total_cons] at ih
      exact ⟨Nat.le_trans (Nat.le_add_left ..) ih.1,
        fun t ht => ih.2 t (Multiset.mem_cons_of_mem ht)⟩
    | trim _ hs htrim ih => exact ih
  alloc := ha.served
  free := by
    intro s held block hs
    obtain ⟨s', hfree⟩ := ha.free hs
    exact ⟨s', hfree, hs.free () hfree⟩
  trim := by
    intro s held hs
    obtain ⟨s', htrim⟩ := ha.trim hs
    exact ⟨s', htrim, hs.trim () htrim⟩

/-- The books of a meter: its counters agree with what is owed below. -/
def MeteredAccounts (Accounts : σ → Multiset Tag → Prop) (s : Metered σ) (held : Multiset Tag) :
    Prop :=
  s.meter.Counts held ∧ Accounts s.inner held

/-- The books of a recycling layer: what is parked is owed below beside what clients hold. -/
def RecyclingAccounts (Accounts : σ → Multiset Tag → Prop) (s : Recycling σ)
    (held : Multiset Tag) : Prop :=
  Accounts s.inner (Parked.tags s.parked + held)

/-- The books of a list of layers. -/
def LayeredAccounts (Accounts : σ → Multiset Tag → Prop) :
    (layers : List Layer) → Layered σ layers → Multiset Tag → Prop
  | [] => Accounts
  | .metered :: layers => MeteredAccounts (LayeredAccounts Accounts layers)
  | .recycling _ :: layers => RecyclingAccounts (LayeredAccounts Accounts layers)

theorem layeredAccounts_initial {Accounts : σ → Multiset Tag → Prop} (h : Accounts start 0) :
    (layers : List Layer) → LayeredAccounts Accounts layers (Layered.initial start layers) 0
  | [] => h
  | .metered :: layers => ⟨Meter.Counts.zero, layeredAccounts_initial h layers⟩
  | .recycling _ :: layers => layeredAccounts_initial h layers

/-- What was granted is taken back, and the books are kept. -/
structure Returns (a : Allocator σ) (Accounts : σ → Multiset Tag → Prop) : Prop where
  free : ∀ {s held block}, Accounts s (block.tag ::ₘ held) →
    ∃ s', a.free block s = .done s' ∧ Accounts s' held
  trim : ∀ {s held}, Accounts s held → ∃ s', a.trim s = .done s' ∧ Accounts s' held

namespace Returns

variable {Accounts : σ → Multiset Tag → Prop}

theorem metered (ha : a.Returns Accounts) : a.metered.Returns (MeteredAccounts Accounts) where
  free := by
    rintro s held block ⟨hcounts, hinner⟩
    obtain ⟨state, hfree, hstate⟩ := ha.free hinner
    exact ⟨⟨s.meter.uncount block.size, state⟩, by simp only [Allocator.metered, hfree],
      hcounts.uncount, hstate⟩
  trim := by
    rintro s held ⟨hcounts, hinner⟩
    obtain ⟨state, htrim, hstate⟩ := ha.trim hinner
    exact ⟨{ s with inner := state }, by simp only [Allocator.metered, htrim, Return.map],
      hcounts, hstate⟩

theorem recyclingBy (ha : a.Returns Accounts) (order : DrainOrder σ) (capacity : Nat) :
    (a.recyclingBy order capacity).Returns (RecyclingAccounts Accounts) where
  free := by
    intro s held block hs
    simp only [Allocator.recyclingBy, Allocator.recycling]
    split
    next =>
      refine ⟨_, rfl, ?_⟩
      rwa [RecyclingAccounts, Parked.tags_cons, Multiset.cons_add, ← Multiset.add_cons]
    next =>
      rw [RecyclingAccounts, Multiset.add_cons] at hs
      obtain ⟨state, hfree, hstate⟩ := ha.free hs
      exact ⟨{ s with inner := state }, by simp only [hfree, Return.map], hstate⟩
  trim := by
    intro s held hs
    obtain ⟨state, hdrain, hstate⟩ := drainBy_done order ha.free ha.trim hs
    exact ⟨⟨[], state⟩, hdrain, by simpa [RecyclingAccounts] using hstate⟩

theorem recycling (ha : a.Returns Accounts) (capacity : Nat) :
    (a.recycling capacity).Returns (RecyclingAccounts Accounts) :=
  ha.recyclingBy .oldestFirst capacity

theorem layeredBy (ha : a.Returns Accounts) :
    (layers : List Layer) → (orders : DrainOrders σ layers) →
      (a.layeredBy layers orders).Returns (LayeredAccounts Accounts layers)
  | [], _ => ha
  | .metered :: layers, orders => (ha.layeredBy layers orders).metered
  | .recycling capacity :: layers, orders =>
    (ha.layeredBy layers (Prod.snd orders)).recyclingBy (Prod.fst orders) capacity

end Returns

namespace Rationed

variable {Accounts : σ → Multiset Tag → Prop}

theorem returns (ha : a.Rationed limit admits Accounts) : a.Returns Accounts :=
  ⟨ha.free, ha.trim⟩

/-- A meter never stops a request that the limit allows, since the limit is a word. -/
theorem metered (ha : a.Rationed limit admits Accounts) (hlimit : limit < Word.limit) :
    a.metered.Rationed limit admits (MeteredAccounts Accounts) where
  within h := ha.within h.2
  alloc := by
    rintro s held ⟨hcounts, hinner⟩ size zeroed
    have hserved := ha.alloc hinner size zeroed
    simp only [Allocator.metered]
    rcases halloc : a.alloc size zeroed s.inner with ⟨(fault | block), state⟩
    · rw [halloc] at hserved
      cases fault with
      | error cause =>
        obtain ⟨hfull, hreported, hstate⟩ := hserved
        exact ⟨hfull, hreported, hcounts, hstate⟩
      | trap => exact hserved
    · rw [halloc] at hserved
      obtain ⟨hroom, hsize, hstate⟩ := hserved
      have hfits : s.meter.liveBytes + size < Word.limit := by
        have hle := (ha.within hinner).1
        have hbytes := hcounts.bytes
        omega
      simp only [Word.add?_eq_some_iff.mpr ⟨hfits, rfl⟩]
      refine ⟨hroom, hsize, ?_, hstate⟩
      have htag : block.tag.size = size := hsize
      exact htag ▸ (hcounts.count (htag ▸ hfits)).withPeak _
  free := ha.returns.metered.free
  trim := ha.returns.metered.trim

/-- What is parked was granted below and leaves room for a request of its own size. -/
theorem room_of_parked (ha : a.Rationed limit admits Accounts) {s : σ} {held : Multiset Tag}
    {parked others : List Block} {b : Block} {size : Nat}
    (hs : Accounts s (Parked.tags parked + held))
    (htake : Parked.take? size parked = some (b, others)) :
    admits size ∧ size ≤ limit - Tag.total held := by
  obtain ⟨hsize, htags⟩ := Parked.tags_of_take? htake
  obtain ⟨hle, hadmitted⟩ := ha.within hs
  rw [htags] at hle hadmitted
  refine ⟨?_, ?_⟩
  · exact hsize ▸ hadmitted b.tag (by simp)
  · simp only [Tag.total_add, Tag.total_cons, Block.tag_size] at hle
    omega

/-- A request that is refused below is made again when nothing is parked, and then has all
    the room that clients leave. -/
theorem served_allocBelowBy (ha : a.Rationed limit admits Accounts) (order : DrainOrder σ)
    {s : Recycling σ} {held : Multiset Tag} (hs : RecyclingAccounts Accounts s held) (size : Nat)
    (zeroed : Bool) :
    Served (RecyclingAccounts Accounts) (admits size ∧ size ≤ limit - Tag.total held) size held
      (a.allocBelowBy order size zeroed s) := by
  have hserved := ha.alloc hs size zeroed
  simp only [Allocator.allocBelowBy]
  rcases hfirst : a.alloc size zeroed s.inner with ⟨(fault | block), state⟩
  · rw [hfirst] at hserved
    cases fault with
    | error first =>
      obtain ⟨-, hreported, hstate⟩ := hserved
      obtain ⟨drained, hdrain, hdrained⟩ :=
        drainBy_done order ha.free ha.trim (s := ⟨s.parked, state⟩) hstate
      simp only [hdrain]
      have hretried := ha.alloc hdrained size zeroed
      rcases hsecond : a.alloc size zeroed drained with ⟨(fault | block), state'⟩
      · rw [hsecond] at hretried
        cases fault with
        | error second =>
          obtain ⟨hfull, -, hstate'⟩ := hretried
          exact ⟨hfull, hreported, by simpa [RecyclingAccounts] using hstate'⟩
        | trap => exact hretried
      · rw [hsecond] at hretried
        obtain ⟨hroom, hsize, hstate'⟩ := hretried
        exact ⟨hroom, hsize, by simpa [RecyclingAccounts] using hstate'⟩
    | trap => exact hserved
  · rw [hfirst] at hserved
    obtain ⟨⟨hadmits, hroom⟩, hsize, hstate⟩ := hserved
    rw [Tag.total_add] at hroom
    refine ⟨⟨hadmits, by omega⟩, hsize, ?_⟩
    rwa [RecyclingAccounts, Multiset.add_cons]

/-- A recycling layer refuses nothing that the limit leaves room for, whatever it parks. -/
theorem recyclingBy (ha : a.Rationed limit admits Accounts) (order : DrainOrder σ)
    (capacity : Nat) :
    (a.recyclingBy order capacity).Rationed limit admits (RecyclingAccounts Accounts) where
  within := by
    intro s held hs
    obtain ⟨hle, hadmitted⟩ := ha.within hs
    rw [Tag.total_add] at hle
    exact ⟨Nat.le_trans (Nat.le_add_left ..) hle,
      fun t ht => hadmitted t (Multiset.mem_add.mpr (.inr ht))⟩
  alloc := by
    intro s held hs size zeroed
    simp only [Allocator.recyclingBy]
    split
    next b others htake =>
      obtain ⟨hsize, htags⟩ := Parked.tags_of_take? htake
      have htag := Block.tag_ite_cleared zeroed b
      refine ⟨ha.room_of_parked hs htake, (congrArg Tag.size htag).trans hsize, ?_⟩
      rwa [RecyclingAccounts, htag, Multiset.add_cons, ← Multiset.cons_add, ← htags]
    next => exact ha.served_allocBelowBy order hs size zeroed
  free := (ha.returns.recyclingBy order capacity).free
  trim := (ha.returns.recyclingBy order capacity).trim

theorem layeredBy (ha : a.Rationed limit admits Accounts) (hlimit : limit < Word.limit) :
    (layers : List Layer) → (orders : DrainOrders σ layers) →
      (a.layeredBy layers orders).Rationed limit admits (LayeredAccounts Accounts layers)
  | [], _ => ha
  | .metered :: layers, orders => (ha.layeredBy hlimit layers orders).metered hlimit
  | .recycling capacity :: layers, orders =>
    (ha.layeredBy hlimit layers (Prod.snd orders)).recyclingBy (Prod.fst orders) capacity

end Rationed

end Allocator

/-! ## Clients -/

/-- What a client asks of an allocator. It names a block by its place among those that it
    holds, in the order of their grants; a place that holds none asks for nothing. -/
inductive Request where
  | alloc (size : Nat) (zeroed : Bool)
  | write (place offset : Nat) (bytes : List UInt8)
  | free (place : Nat)
  | trim

/-- What a client sees of an answer. -/
inductive Report where
  | granted (size : Nat)
  | refused (requested : Option Nat)
  | trapped
  | done
  deriving DecidableEq

/-- What a request may be answered with that does not trap. -/
def Request.Admits : Request → Report → Prop
  | .alloc size _, report => report = .granted size ∨ report = .refused (some size)
  | _, report => report = .done

/-- An allocator's state and the blocks that its client holds. -/
structure Client (σ : Type) where
  state : σ
  held : List Block

namespace Client

variable {σ τ : Type}

/-- The report on memory that went back, and what the client is left with. -/
def afterReturn (held : List Block) : Return σ → Report × Client σ
  | .done state => (.done, ⟨state, held⟩)
  | .trapped state => (.trapped, ⟨state, held⟩)

/-- Make a request. -/
def step (a : Allocator σ) (c : Client σ) : Request → Report × Client σ
  | .alloc size zeroed =>
    match a.alloc size zeroed c.state with
    | (.ok block, state) => (.granted block.size, ⟨state, c.held ++ [block]⟩)
    | (.error (.error cause), state) => (.refused cause.requested?, ⟨state, c.held⟩)
    | (.error .trap, state) => (.trapped, ⟨state, c.held⟩)
  | .write place offset bytes =>
    match c.held[place]?.bind (·.write? offset bytes) with
    | none => (.done, c)
    | some block => (.done, { c with held := c.held.set place block })
  | .free place =>
    match c.held[place]? with
    | none => (.done, c)
    | some block => afterReturn (c.held.eraseIdx place) (a.free block c.state)
  | .trim => afterReturn c.held (a.trim c.state)

/-- The reports on requests that are made one after another. -/
def reports (a : Allocator σ) (c : Client σ) : List Request → List Report
  | [] => []
  | request :: requests =>
    (c.step a request).1 :: (c.step a request).2.reports a requests

/-- Two clients that are square with their allocators and hold blocks of the same sizes. -/
structure Alike (Accounts : σ → Multiset Tag → Prop) (Accounts' : τ → Multiset Tag → Prop)
    (c : Client σ) (c' : Client τ) : Prop where
  left : Accounts c.state (Parked.tags c.held)
  right : Accounts' c'.state (Parked.tags c'.held)
  sizes : c.held.map Block.size = c'.held.map Block.size

variable {a : Allocator σ} {a' : Allocator τ} {limit : Nat} {admits : Nat → Prop}
  {Accounts : σ → Multiset Tag → Prop} {Accounts' : τ → Multiset Tag → Prop}
  {c : Client σ} {c' : Client τ}

namespace Alike

theorem total_eq (h : Alike Accounts Accounts' c c') :
    Tag.total (Parked.tags c.held) = Tag.total (Parked.tags c'.held) := by
  rw [Parked.total_tags, Parked.total_tags, h.sizes]

/-- Both clients hold a block of the same size at a place, or neither holds any. -/
theorem size_eq (h : Alike Accounts Accounts' c c') (place : Nat) :
    c.held[place]?.map Block.size = c'.held[place]?.map Block.size := by
  rw [← List.getElem?_map, ← List.getElem?_map, h.sizes]

/-- A granted block is held behind all others. -/
theorem tags_concat (held : List Block) (block : Block) :
    Parked.tags (held ++ [block]) = block.tag ::ₘ Parked.tags held := by
  rw [Parked.tags, List.map_append, ← Multiset.coe_add, add_comm]
  rfl

theorem tags_eraseIdx {held : List Block} {place : Nat} {block : Block}
    (hblock : held[place]? = some block) :
    Parked.tags held = block.tag ::ₘ Parked.tags (held.eraseIdx place) := by
  obtain ⟨hlt, rfl⟩ := List.getElem?_eq_some_iff.mp hblock
  exact Parked.tags_of_perm (List.getElem_cons_eraseIdx_perm hlt).symm

/-- Writing into a block asks nothing of the allocator and keeps the block's tag. -/
theorem step_write (a : Allocator σ) (c : Client σ) (place offset : Nat) (bytes : List UInt8) :
    (c.step a (.write place offset bytes)).1 = .done ∧
    (c.step a (.write place offset bytes)).2.state = c.state ∧
    (c.step a (.write place offset bytes)).2.held.map Block.tag = c.held.map Block.tag := by
  simp only [step]
  split
  next => exact ⟨rfl, rfl, rfl⟩
  next block hwrite =>
    obtain ⟨old, hold, hwrite⟩ := Option.bind_eq_some_iff.mp hwrite
    have htag : block.tag = old.tag := Block.tag_of_write? hwrite
    obtain ⟨hlt, hold⟩ := List.getElem?_eq_some_iff.mp hold
    refine ⟨rfl, rfl, ?_⟩
    rw [List.map_set, htag, ← hold, ← List.map_set, List.set_getElem_self]

theorem write (h : Alike Accounts Accounts' c c') (a : Allocator σ) (a' : Allocator τ)
    (place offset : Nat) (bytes : List UInt8) :
    Alike Accounts Accounts' (c.step a (.write place offset bytes)).2
      (c'.step a' (.write place offset bytes)).2 := by
  obtain ⟨-, hstate, htags⟩ := step_write a c place offset bytes
  obtain ⟨-, hstate', htags'⟩ := step_write a' c' place offset bytes
  have hsizes {held held' : List Block} (htags : held'.map Block.tag = held.map Block.tag) :
      held'.map Block.size = held.map Block.size := by
    have hmap := congrArg (List.map Tag.size) htags
    rwa [List.map_map, List.map_map] at hmap
  refine ⟨?_, ?_, (hsizes htags).trans (h.sizes.trans (hsizes htags').symm)⟩
  · rw [hstate, Parked.tags, htags]
    exact h.left
  · rw [hstate', Parked.tags, htags']
    exact h.right

variable (ha : a.Rationed limit admits Accounts) (ha' : a'.Rationed limit admits Accounts')
include ha ha'

/-- Clients that are alike are told the same in answer to a request for memory: what is left
    of the limit depends on nothing but what they hold. -/
theorem step_alloc (h : Alike Accounts Accounts' c c') (size : Nat) (zeroed : Bool) :
    (c.step a (.alloc size zeroed)).1 = (c'.step a' (.alloc size zeroed)).1 ∧
    (Request.alloc size zeroed).Admits (c.step a (.alloc size zeroed)).1 ∧
    Alike Accounts Accounts' (c.step a (.alloc size zeroed)).2
      (c'.step a' (.alloc size zeroed)).2 := by
  have hserved := ha.alloc h.left size zeroed
  have hserved' := ha'.alloc h.right size zeroed
  rw [← h.total_eq] at hserved'
  simp only [step]
  rcases halloc : a.alloc size zeroed c.state with ⟨((cause | _) | block), state⟩ <;>
    rcases halloc' : a'.alloc size zeroed c'.state with ⟨((cause' | _) | block'), state'⟩ <;>
    rw [halloc] at hserved <;> rw [halloc'] at hserved'
  case ok.ok =>
    obtain ⟨-, hsize, hstate⟩ := hserved
    obtain ⟨-, hsize', hstate'⟩ := hserved'
    refine ⟨by simp only [hsize, hsize'], .inl (congrArg Report.granted hsize), ?_⟩
    refine ⟨tags_concat c.held block ▸ hstate, tags_concat c'.held block' ▸ hstate', ?_⟩
    simp only [List.map_append, h.sizes, List.map_cons, List.map_nil, hsize, hsize']
  case error.error.error.error =>
    obtain ⟨-, hreported, hstate⟩ := hserved
    obtain ⟨-, hreported', hstate'⟩ := hserved'
    exact ⟨by simp only [hreported, hreported'], .inr (congrArg Report.refused hreported),
      hstate, hstate', h.sizes⟩
  case error.error.ok => exact absurd hserved'.1 hserved.1
  case ok.error.error => exact absurd hserved.1 hserved'.1
  all_goals first | exact hserved.elim | exact hserved'.elim

theorem step_free (h : Alike Accounts Accounts' c c') (place : Nat) :
    (c.step a (.free place)).1 = .done ∧ (c'.step a' (.free place)).1 = .done ∧
    Alike Accounts Accounts' (c.step a (.free place)).2 (c'.step a' (.free place)).2 := by
  have hsize := h.size_eq place
  simp only [step]
  rcases hblock : c.held[place]? with _ | block <;>
    rcases hblock' : c'.held[place]? with _ | block' <;> simp only [hblock, hblock'] at hsize
  case none.none => exact ⟨rfl, rfl, h⟩
  case some.some =>
    have hleft := h.left
    have hright := h.right
    rw [tags_eraseIdx hblock] at hleft
    rw [tags_eraseIdx hblock'] at hright
    obtain ⟨state, hfree, hstate⟩ := ha.free hleft
    obtain ⟨state', hfree', hstate'⟩ := ha'.free hright
    simp only [hfree, hfree']
    refine ⟨rfl, rfl, hstate, hstate', ?_⟩
    exact (List.eraseIdx_map ..).symm.trans
      ((congrArg (·.eraseIdx place) h.sizes).trans (List.eraseIdx_map ..))
  all_goals cases hsize

theorem step_trim (h : Alike Accounts Accounts' c c') :
    (c.step a .trim).1 = .done ∧ (c'.step a' .trim).1 = .done ∧
    Alike Accounts Accounts' (c.step a .trim).2 (c'.step a' .trim).2 := by
  obtain ⟨state, htrim, hstate⟩ := ha.trim h.left
  obtain ⟨state', htrim', hstate'⟩ := ha'.trim h.right
  simp only [step, htrim, htrim']
  exact ⟨rfl, rfl, hstate, hstate', h.sizes⟩

/-- Clients that are alike are told the same, and stay alike. -/
theorem step (h : Alike Accounts Accounts' c c') (request : Request) :
    (c.step a request).1 = (c'.step a' request).1 ∧
    request.Admits (c.step a request).1 ∧
    Alike Accounts Accounts' (c.step a request).2 (c'.step a' request).2 := by
  cases request with
  | alloc size zeroed => exact h.step_alloc ha ha' size zeroed
  | write place offset bytes =>
    have hdone := (step_write a c place offset bytes).1
    have hdone' := (step_write a' c' place offset bytes).1
    exact ⟨hdone.trans hdone'.symm, hdone, h.write a a' place offset bytes⟩
  | free place =>
    obtain ⟨hdone, hdone', halike⟩ := h.step_free ha ha' place
    exact ⟨hdone.trans hdone'.symm, hdone, halike⟩
  | trim =>
    obtain ⟨hdone, hdone', halike⟩ := h.step_trim ha ha'
    exact ⟨hdone.trans hdone'.symm, hdone, halike⟩

end Alike

end Client

end DeviceMemory
