-- SUMMARY: Ledgers: the blocks an allocator has granted and not taken back, for every base and under every layer.
import DeviceMemory.Allocator.Orders
import Mathlib.Algebra.Order.Group.Multiset
import Mathlib.Algebra.BigOperators.Group.Multiset.Basic
import Mathlib.Data.Multiset.Range
import Mathlib.Tactic.Abel

/-!
# Ledgers

A block changes its contents while it is in use, never its address or its size:
these two are its `Tag`. A `Ledger` of an allocator says of each state which
blocks are owed, as a multiset of tags, and how every operation changes that. A
grant adds one tag, a block that goes back takes its tag away, and an operation
that fails or trims changes nothing.

Each base allocator has a ledger (`Base.ledger`), and a layer over an allocator
with a ledger has one (`Ledger.metered`, `Ledger.recycling`). So every stack has
one (`Stack.Accounts`), whatever its shape.
-/

namespace DeviceMemory

/-- What stays the same of a block while it is in use. -/
structure Tag where
  address : Nat
  size : Nat
  deriving DecidableEq

def Block.tag (b : Block) : Tag := ⟨b.address, b.size⟩

@[simp] theorem Block.tag_size (b : Block) : b.tag.size = b.size := rfl

@[simp] theorem Block.tag_cleared (b : Block) : b.cleared.tag = b.tag := by
  simp [tag, cleared, size]

theorem Block.tag_ite_cleared (zeroed : Bool) (b : Block) :
    (if zeroed then b.cleared else b).tag = b.tag := by
  split
  · exact tag_cleared b
  · rfl

theorem Block.tag_of_write? {b b' : Block} {offset : Nat} {bytes : List UInt8}
    (h : b.write? offset bytes = some b') : b'.tag = b.tag := by
  have hsize : b'.size = b.size := size_of_write? h
  have haddress : b'.address = b.address := by
    simp only [write?] at h
    split at h <;> cases h
    rfl
  rw [tag, tag, hsize, haddress]

/-- The bytes of all the blocks with these tags. -/
def Tag.total (held : Multiset Tag) : Nat := (held.map Tag.size).sum

@[simp] theorem Tag.total_zero : Tag.total 0 = 0 := rfl

@[simp] theorem Tag.total_cons (t : Tag) (held : Multiset Tag) :
    Tag.total (t ::ₘ held) = t.size + Tag.total held := by
  simp [total]

@[simp] theorem Tag.total_add (held held' : Multiset Tag) :
    Tag.total (held + held') = Tag.total held + Tag.total held' := by
  simp [total]

namespace Allocator

variable {σ : Type} {a : Allocator σ}

/-- A reading of an allocator's states as lists of blocks that it has granted and
    not taken back. -/
structure Ledger (a : Allocator σ) where
  /-- In this state exactly these blocks are owed. -/
  Accounts : σ → Multiset Tag → Prop
  nodup : ∀ {s held}, Accounts s held → (held.map Tag.address).Nodup
  grant : ∀ {s s' held size zeroed block}, Accounts s held →
    a.alloc size zeroed s = (.ok block, s') → block.size = size ∧ Accounts s' (block.tag ::ₘ held)
  refusal : ∀ {s s' held size zeroed cause}, Accounts s held →
    a.alloc size zeroed s = (.error (.error cause), s') → Accounts s' held
  free : ∀ {s held block}, Accounts s (block.tag ::ₘ held) →
    ∃ s', a.free block s = .done s' ∧ Accounts s' held
  trim : ∀ {s held}, Accounts s held → ∃ s', a.trim s = .done s' ∧ Accounts s' held

/-! ## Base allocators -/

/-- The blocks were granted at different addresses below `next`. -/
def Placed (next : Nat) (held : Multiset Tag) : Prop :=
  (∀ t ∈ held, t.address < next) ∧ (held.map Tag.address).Nodup

theorem Placed.zero (next : Nat) : Placed next 0 := by
  simp [Placed]

/-- A block at the next address is a new one. -/
theorem Placed.cons {next : Nat} {held : Multiset Tag} (h : Placed next held) (size : Nat) :
    Placed (next + 1) (⟨next, size⟩ ::ₘ held) := by
  refine ⟨?_, ?_⟩
  · intro t ht
    rcases Multiset.mem_cons.mp ht with rfl | ht
    · exact Nat.lt_succ_self next
    · exact Nat.lt_succ_of_lt (h.1 t ht)
  · rw [Multiset.map_cons, Multiset.nodup_cons]
    refine ⟨?_, h.2⟩
    intro hmem
    obtain ⟨t, ht, haddress⟩ := Multiset.mem_map.mp hmem
    exact absurd (h.1 t ht) (haddress ▸ Nat.lt_irrefl next)

theorem Placed.of_cons {next : Nat} {held : Multiset Tag} {t : Tag}
    (h : Placed next (t ::ₘ held)) : Placed next held := by
  refine ⟨fun t' ht' => h.1 t' (Multiset.mem_cons_of_mem ht'), ?_⟩
  have hnodup := h.2
  rw [Multiset.map_cons, Multiset.nodup_cons] at hnodup
  exact hnodup.2

/-- As many blocks as were placed have different addresses. -/
theorem Placed.card_le {next : Nat} {held : Multiset Tag} (h : Placed next held) :
    held.card ≤ next := by
  have hsub : held.map Tag.address ≤ Multiset.range next := by
    refine (Multiset.le_iff_subset h.2).mpr ?_
    intro address haddress
    obtain ⟨t, ht, rfl⟩ := Multiset.mem_map.mp haddress
    exact Multiset.mem_range.mpr (h.1 t ht)
  simpa using Multiset.card_le_card hsub

theorem host_grant {next next' size : Nat} {zeroed : Bool} {block : Block}
    (h : host.alloc size zeroed next = (.ok block, next')) :
    block.tag = ⟨next, size⟩ ∧ next' = next + 1 := by
  simp only [host] at h
  split at h
  next granted hgrant =>
    cases h
    have hsize := HostMemory.size_of_grant hgrant
    simp only [HostMemory.grant] at hgrant
    split at hgrant
    · cases hgrant
    · cases hgrant
      exact ⟨by rw [Block.tag, hsize], rfl⟩
  next => cases h

theorem host_refusal {next next' size : Nat} {zeroed : Bool} {fault : Fault DeviceError}
    (h : host.alloc size zeroed next = (.error fault, next')) : next' = next := by
  simp only [host] at h
  split at h <;> cases h
  rfl

/-- Host memory owes blocks at addresses already used. -/
def hostLedger : Ledger host where
  Accounts next held := Placed next held
  nodup h := h.2
  grant := by
    intro next next' held size zeroed block h halloc
    obtain ⟨htag, rfl⟩ := host_grant halloc
    have hsize : block.size = size := congrArg Tag.size htag
    exact ⟨hsize, htag ▸ h.cons size⟩
  refusal := by
    intro next next' held size zeroed cause h halloc
    rwa [host_refusal halloc]
  free h := ⟨_, rfl, h.of_cons⟩
  trim h := ⟨_, rfl, h⟩

/-- What an allocator with a budget owes is what its host memory owes. -/
def budgetLedger (device : String) : Ledger (budget device) where
  Accounts s held := Placed s.next held
  nodup h := h.2
  grant := by
    intro s s' held size zeroed block h halloc
    cases hremaining : s.remaining with
    | zero => simp [budget, hremaining] at halloc
    | succ remaining =>
      simp only [budget, hremaining, Prod.mk.injEq] at halloc
      obtain ⟨hanswer, rfl⟩ := halloc
      have hhost : host.alloc size zeroed s.next = (.ok block, _) := Prod.ext hanswer rfl
      exact hostLedger.grant h hhost
  refusal := by
    intro s s' held size zeroed cause h halloc
    cases hremaining : s.remaining with
    | zero =>
      simp only [budget, hremaining, Prod.mk.injEq] at halloc
      exact halloc.2 ▸ h
    | succ remaining =>
      simp only [budget, hremaining, Prod.mk.injEq] at halloc
      obtain ⟨hanswer, rfl⟩ := halloc
      have hhost : host.alloc size zeroed s.next = (.error (.error cause), _) :=
        Prod.ext hanswer rfl
      exact hostLedger.refusal h hhost
  free h := ⟨_, rfl, h.of_cons⟩
  trim h := ⟨_, rfl, h⟩

/-- An allocator with a limit also knows how many bytes it owes, so it takes back
    every block that it owes. -/
def limitLedger (bytes : Nat) : Ledger (limit bytes) where
  Accounts s held := Placed s.next held ∧ s.used = Tag.total held
  nodup h := h.1.2
  grant := by
    intro s s' held size zeroed block h halloc
    simp only [limit] at halloc
    split at halloc
    · cases halloc
    · split at halloc
      next granted next hhost =>
        cases halloc
        obtain ⟨hsize, hplaced⟩ := hostLedger.grant h.1 hhost
        refine ⟨hsize, hplaced, ?_⟩
        rw [Tag.total_cons, Block.tag_size, hsize, ← h.2, Nat.add_comm]
      next => cases halloc
  refusal := by
    intro s s' held size zeroed cause h halloc
    simp only [limit] at halloc
    split at halloc
    · cases halloc
      exact h
    · split at halloc
      next => cases halloc
      next fault next hhost =>
        cases halloc
        exact ⟨hostLedger.refusal h.1 hhost, h.2⟩
  free := by
    intro s held block h
    have hused : s.used = block.size + Tag.total held := by
      rw [h.2, Tag.total_cons, Block.tag_size]
    refine ⟨{ s with used := s.used - block.size }, ?_, h.1.of_cons, ?_⟩
    · simp only [limit]
      rw [if_pos (by omega)]
    · simp only
      omega
  trim h := ⟨_, rfl, h⟩

end Allocator

/-! ## Meters -/

/-- The counters show how many blocks of how many bytes are owed, the number of
    blocks up to a word. -/
structure Meter.Counts (m : Meter) (held : Multiset Tag) : Prop where
  buffers : m.liveBuffers = held.card % Word.limit
  bytes : m.liveBytes = Tag.total held
  bytes_lt : Tag.total held < Word.limit

namespace Meter

theorem Counts.zero : Meter.zero.Counts 0 :=
  ⟨rfl, rfl, by decide⟩

theorem Counts.count {m : Meter} {held : Multiset Tag} {t : Tag} (h : m.Counts held)
    (hfits : m.liveBytes + t.size < Word.limit) : (m.count t.size).Counts (t ::ₘ held) := by
  have hbytes : Tag.total (t ::ₘ held) = m.liveBytes + t.size := by
    rw [Tag.total_cons, h.bytes, Nat.add_comm]
  refine ⟨?_, ?_, ?_⟩
  · simp [Meter.count, Word.wrapAdd, h.buffers]
  · rw [hbytes]
    exact Word.wrapAdd_eq hfits
  · rwa [hbytes]

theorem Counts.uncount {m : Meter} {held : Multiset Tag} {t : Tag} (h : m.Counts (t ::ₘ held)) :
    (m.uncount t.size).Counts held := by
  have hbytes : m.liveBytes = t.size + Tag.total held := by
    rw [h.bytes, Tag.total_cons]
  have hlt : m.liveBytes < Word.limit := h.bytes ▸ h.bytes_lt
  refine ⟨?_, ?_, by omega⟩
  · have hbuffers := h.buffers
    simp only [Multiset.card_cons] at hbuffers
    simp only [Meter.uncount, Word.wrapSub, hbuffers, Word.limit, Nat.pow_eq]
    omega
  · have hsub : (m.uncount t.size).liveBytes = m.liveBytes - t.size :=
      Word.wrapSub_eq (by omega) hlt
    omega

/-- The peak is no part of the account. -/
theorem Counts.withPeak {m : Meter} {held : Multiset Tag} (h : m.Counts held) (peak : Nat) :
    { m with peakBytes := peak : Meter }.Counts held :=
  ⟨h.buffers, h.bytes, h.bytes_lt⟩

end Meter

namespace Allocator

variable {σ : Type} {a : Allocator σ}

namespace Ledger

/-- A meter counts what the allocator under it owes. -/
def metered (l : Ledger a) : Ledger a.metered where
  Accounts s held := s.meter.Counts held ∧ l.Accounts s.inner held
  nodup h := l.nodup h.2
  grant := by
    intro s s' held size zeroed block h halloc
    simp only [Allocator.metered] at halloc
    split at halloc
    next => cases halloc
    next granted state hinner =>
      obtain ⟨hsize, hinner⟩ := l.grant h.2 hinner
      split at halloc
      next => cases halloc
      next live hlive =>
        cases halloc
        obtain ⟨hfits, -⟩ := Word.add?_eq_some_iff.mp hlive
        refine ⟨hsize, ?_, hinner⟩
        have htag : block.tag.size = size := hsize
        exact htag ▸ (h.1.count (htag ▸ hfits)).withPeak _
  refusal := by
    intro s s' held size zeroed cause h halloc
    simp only [Allocator.metered] at halloc
    split at halloc
    next fault state hinner =>
      cases halloc
      exact ⟨h.1, l.refusal h.2 hinner⟩
    next => split at halloc <;> cases halloc
  free := by
    intro s held block h
    obtain ⟨state, hfree, hinner⟩ := l.free h.2
    exact ⟨⟨s.meter.uncount block.size, state⟩, by simp only [Allocator.metered, hfree],
      h.1.uncount, hinner⟩
  trim := by
    intro s held h
    obtain ⟨state, htrim, hinner⟩ := l.trim h.2
    exact ⟨{ s with inner := state }, by simp only [Allocator.metered, htrim, Return.map],
      h.1, hinner⟩

end Ledger

end Allocator

/-! ## Parked blocks -/

namespace Parked

/-- The tags of parked blocks. -/
def tags (parked : List Block) : Multiset Tag := parked.map Block.tag

@[simp] theorem tags_nil : tags [] = 0 := rfl

@[simp] theorem tags_cons (b : Block) (parked : List Block) :
    tags (b :: parked) = b.tag ::ₘ tags parked := rfl

@[simp] theorem card_tags (parked : List Block) : (tags parked).card = parked.length := by
  simp [tags]

theorem total_tags (parked : List Block) : Tag.total (tags parked) = (parked.map Block.size).sum := by
  induction parked with
  | nil => rfl
  | cons b parked ih => simp [ih]

/-- A block that is taken has the size asked for, and all others stay parked. -/
theorem perm_of_take? {size : Nat} {parked others : List Block} {b : Block}
    (h : take? size parked = some (b, others)) : b.size = size ∧ parked.Perm (b :: others) := by
  induction parked generalizing others with
  | nil => cases h
  | cons c rest ih =>
    by_cases hc : c.size = size
    · simp only [take?, hc, if_true, Option.some.injEq, Prod.mk.injEq] at h
      obtain ⟨rfl, rfl⟩ := h
      exact ⟨hc, List.Perm.refl _⟩
    · simp only [take?, hc, if_false, Option.map_eq_some_iff, Prod.exists, Prod.mk.injEq] at h
      obtain ⟨found, left, htake, rfl, rfl⟩ := h
      obtain ⟨hsize, hperm⟩ := ih htake
      exact ⟨hsize, (hperm.cons c).trans (List.Perm.swap found c left)⟩

theorem tags_of_perm {parked parked' : List Block} (h : parked.Perm parked') :
    tags parked = tags parked' :=
  Multiset.coe_eq_coe.mpr (h.map Block.tag)

theorem tags_of_take? {size : Nat} {parked others : List Block} {b : Block}
    (h : take? size parked = some (b, others)) :
    b.size = size ∧ tags parked = b.tag ::ₘ tags others := by
  obtain ⟨hsize, hperm⟩ := perm_of_take? h
  exact ⟨hsize, tags_of_perm hperm⟩

/-- Of each size at most as many blocks are left as there were. -/
theorem length_ofSize_of_perm {parked others : List Block} {b : Block}
    (h : parked.Perm (b :: others)) (size : Nat) :
    (ofSize size others).length ≤ (ofSize size parked).length := by
  have hlength : (ofSize size parked).length = (ofSize size (b :: others)).length :=
    (h.filter _).length_eq
  rw [hlength]
  exact ((List.sublist_cons_self b others).filter _).length_le

end Parked

namespace Allocator

variable {σ : Type} {a : Allocator σ}

/-! ## Drains

`Accounts` may be any reading of the states as blocks that are owed, as long as the
allocator takes back what is owed. -/

section Drain

variable {Accounts : σ → Multiset Tag → Prop}

theorem freeAll_done
    (hfree : ∀ {s held block}, Accounts s (block.tag ::ₘ held) →
      ∃ s', a.free block s = .done s' ∧ Accounts s' held)
    {s : σ} {blocks : List Block} {held : Multiset Tag}
    (h : Accounts s (Parked.tags blocks + held)) :
    ∃ s', a.freeAll blocks s = .done s' ∧ Accounts s' held := by
  induction blocks generalizing s with
  | nil => exact ⟨s, rfl, by simpa using h⟩
  | cons b blocks ih =>
    rw [Parked.tags_cons, Multiset.cons_add] at h
    obtain ⟨s₁, hdone, h₁⟩ := hfree h
    obtain ⟨s₂, hrest, h₂⟩ := ih h₁
    refine ⟨s₂, ?_, h₂⟩
    rw [Allocator.freeAll, hdone]
    exact hrest

/-- In whatever order the parked blocks go back, a drain takes all of them back. -/
theorem drainBy_done (order : DrainOrder σ)
    (hfree : ∀ {s held block}, Accounts s (block.tag ::ₘ held) →
      ∃ s', a.free block s = .done s' ∧ Accounts s' held)
    (htrim : ∀ {s held}, Accounts s held → ∃ s', a.trim s = .done s' ∧ Accounts s' held)
    {s : Recycling σ} {held : Multiset Tag}
    (h : Accounts s.inner (Parked.tags s.parked + held)) :
    ∃ state, a.drainBy order s = .done ⟨[], state⟩ ∧ Accounts state held := by
  rw [← Parked.tags_of_perm (order.perm s)] at h
  obtain ⟨s₁, hfreed, h₁⟩ := freeAll_done hfree h
  obtain ⟨s₂, htrimmed, h₂⟩ := htrim h₁
  refine ⟨s₂, ?_, h₂⟩
  simp only [Allocator.drainBy, hfreed, Return.bind, htrimmed, Return.map]

theorem drain_done
    (hfree : ∀ {s held block}, Accounts s (block.tag ::ₘ held) →
      ∃ s', a.free block s = .done s' ∧ Accounts s' held)
    (htrim : ∀ {s held}, Accounts s held → ∃ s', a.trim s = .done s' ∧ Accounts s' held)
    {s : Recycling σ} {held : Multiset Tag}
    (h : Accounts s.inner (Parked.tags s.parked + held)) :
    ∃ state, a.drain s = .done ⟨[], state⟩ ∧ Accounts state held :=
  drainBy_done .oldestFirst hfree htrim h

end Drain

namespace Ledger

/-- A drain gives back what is parked and leaves what is in use. -/
theorem drain (l : Ledger a) {s : Recycling σ} {held : Multiset Tag}
    (h : l.Accounts s.inner (Parked.tags s.parked + held)) :
    ∃ state, a.drain s = .done ⟨[], state⟩ ∧ l.Accounts state held :=
  drain_done l.free l.trim h

/-- Below a recycling layer the parked blocks are owed as well, and of each size no more
    are parked than the capacity allows. -/
structure Parking (l : Ledger a) (capacity : Nat) (s : Recycling σ) (held : Multiset Tag) :
    Prop where
  owed : l.Accounts s.inner (Parked.tags s.parked + held)
  bounded : ∀ size, (Parked.ofSize size s.parked).length ≤ capacity

/-- Nothing is parked. -/
theorem Parking.empty {l : Ledger a} {capacity : Nat} {state : σ} {held : Multiset Tag}
    (h : l.Accounts state held) : l.Parking capacity ⟨[], state⟩ held :=
  ⟨by simpa using h, fun _ => Nat.zero_le capacity⟩

theorem allocBelow_grant (l : Ledger a) {capacity : Nat} {s s' : Recycling σ}
    {held : Multiset Tag} {size : Nat} {zeroed : Bool} {block : Block}
    (h : l.Parking capacity s held) (halloc : a.allocBelow size zeroed s = (.ok block, s')) :
    block.size = size ∧ l.Parking capacity s' (block.tag ::ₘ held) := by
  simp only [allocBelow] at halloc
  split at halloc
  next first state hfirst =>
    -- the first request was refused, so nothing is parked at the second
    have hstate : l.Accounts state (Parked.tags s.parked + held) := l.refusal h.owed hfirst
    obtain ⟨drained, hdrain, hdrained⟩ := l.drain (s := ⟨s.parked, state⟩) hstate
    simp only [hdrain] at halloc
    split at halloc
    next => cases halloc
    next answer state' hsecond =>
      cases halloc
      obtain ⟨hsize, hstate'⟩ := l.grant hdrained hsecond
      exact ⟨hsize, Parking.empty hstate'⟩
  next answer state hfirst =>
    cases halloc
    obtain ⟨hsize, hstate⟩ := l.grant h.owed hfirst
    refine ⟨hsize, ?_, h.bounded⟩
    rwa [Multiset.add_cons]

theorem allocBelow_refusal (l : Ledger a) {capacity : Nat} {s s' : Recycling σ}
    {held : Multiset Tag} {size : Nat} {zeroed : Bool} {cause : DeviceError}
    (h : l.Parking capacity s held)
    (halloc : a.allocBelow size zeroed s = (.error (.error cause), s')) :
    l.Parking capacity s' held := by
  simp only [allocBelow] at halloc
  split at halloc
  next first state hfirst =>
    have hstate : l.Accounts state (Parked.tags s.parked + held) := l.refusal h.owed hfirst
    obtain ⟨drained, hdrain, hdrained⟩ := l.drain (s := ⟨s.parked, state⟩) hstate
    simp only [hdrain] at halloc
    split at halloc
    next second state' hsecond =>
      cases halloc
      exact Parking.empty (l.refusal hdrained hsecond)
    next answer state' hother hsecond =>
      cases halloc
      exact absurd rfl (hother cause)
  next answer state hother hfirst =>
    cases halloc
    exact absurd rfl (hother cause)

/-- A recycling layer owes what the allocator under it owes, less what is parked. -/
def recycling (capacity : Nat) (l : Ledger a) : Ledger (a.recycling capacity) where
  Accounts s held := l.Parking capacity s held
  nodup h := by
    have hnodup := l.nodup h.owed
    rw [Multiset.map_add] at hnodup
    exact (Multiset.nodup_add.mp hnodup).2.1
  grant := by
    intro s s' held size zeroed block h halloc
    simp only [Allocator.recycling] at halloc
    split at halloc
    next b others htake =>
      obtain ⟨hsize, hperm⟩ := Parked.perm_of_take? htake
      have htags : Parked.tags s.parked = b.tag ::ₘ Parked.tags others := Parked.tags_of_perm hperm
      obtain ⟨hblock, rfl⟩ := Prod.mk.inj halloc
      have htag : block.tag = b.tag := by
        cases hblock
        exact Block.tag_ite_cleared zeroed b
      have hblockSize : block.size = b.size := congrArg Tag.size htag
      refine ⟨hblockSize.trans hsize, ?_, fun size' => ?_⟩
      · simpa only [htag, htags, Multiset.cons_add, Multiset.add_cons] using h.owed
      · exact (Parked.length_ofSize_of_perm hperm size').trans (h.bounded size')
    next => exact l.allocBelow_grant h halloc
  refusal := by
    intro s s' held size zeroed cause h halloc
    simp only [Allocator.recycling] at halloc
    split at halloc
    next => cases halloc
    next => exact l.allocBelow_refusal h halloc
  free := by
    intro s held block h
    simp only [Allocator.recycling]
    split
    next hroom =>
      refine ⟨_, rfl, ?_, fun size => ?_⟩
      · simpa only [Parked.tags_cons, Multiset.cons_add, Multiset.add_cons] using h.owed
      · by_cases hsize : block.size = size
        · subst hsize
          simpa [Parked.ofSize] using Nat.succ_le_of_lt hroom
        · simpa [Parked.ofSize, hsize] using h.bounded size
    next =>
      have hheld : l.Accounts s.inner (block.tag ::ₘ (Parked.tags s.parked + held)) := by
        simpa only [Multiset.add_cons] using h.owed
      obtain ⟨state, hfree, hstate⟩ := l.free hheld
      exact ⟨{ s with inner := state }, by simp only [hfree, Return.map], hstate, h.bounded⟩
  trim := by
    intro s held h
    obtain ⟨state, hdrain, hstate⟩ := l.drain h.owed
    exact ⟨⟨[], state⟩, hdrain, Parking.empty hstate⟩

/-! ## Stacks -/

/-- The ledger of an allocator under a list of layers. -/
def layered (l : Ledger a) : (layers : List Layer) → Ledger (a.layered layers)
  | [] => l
  | .metered :: layers => (l.layered layers).metered
  | .recycling capacity :: layers => (l.layered layers).recycling capacity

/-- Layers that have seen no block owe none. -/
theorem layered_initial (l : Ledger a) {base : σ} (h : l.Accounts base 0) :
    (layers : List Layer) → (l.layered layers).Accounts (Layered.initial base layers) 0
  | [] => h
  | .metered :: layers => ⟨Meter.Counts.zero, l.layered_initial h layers⟩
  | .recycling _ :: layers => Parking.empty (l.layered_initial h layers)

end Ledger

end Allocator

/-- The ledger of a base allocator. -/
def Base.ledger : (base : Base) → Allocator.Ledger base.allocator
  | .host => Allocator.hostLedger
  | .budget _ device => Allocator.budgetLedger device
  | .limit bytes => Allocator.limitLedger bytes

theorem Base.ledger_initial (base : Base) : base.ledger.Accounts base.initial 0 := by
  cases base with
  | host => exact Allocator.Placed.zero 0
  | budget requests device => exact Allocator.Placed.zero 0
  | limit bytes => exact ⟨Allocator.Placed.zero 0, rfl⟩

namespace Stack

/-- In the state of this stack exactly these blocks are owed. -/
def Accounts (s : Stack) (held : Multiset Tag) : Prop :=
  (s.base.ledger.layered s.layers).Accounts s.state held

theorem accounts_new (base : Base) (layers : List Layer) : (new base layers).Accounts 0 :=
  base.ledger.layered_initial base.ledger_initial layers

theorem Accounts.grant {s s' : Stack} {held : Multiset Tag} {size : Nat} {zeroed : Bool}
    {block : Block} (h : s.Accounts held) (halloc : s.alloc size zeroed = (.ok block, s')) :
    block.size = size ∧ s'.Accounts (block.tag ::ₘ held) := by
  rcases hstate : s.allocator.alloc size zeroed s.state with ⟨answer, state⟩
  simp only [alloc, hstate, Prod.mk.injEq] at halloc
  obtain ⟨rfl, rfl⟩ := halloc
  exact (s.base.ledger.layered s.layers).grant h hstate

theorem Accounts.refusal {s s' : Stack} {held : Multiset Tag} {size : Nat} {zeroed : Bool}
    {cause : DeviceError} (h : s.Accounts held)
    (halloc : s.alloc size zeroed = (.error (.error cause), s')) : s'.Accounts held := by
  rcases hstate : s.allocator.alloc size zeroed s.state with ⟨answer, state⟩
  simp only [alloc, hstate, Prod.mk.injEq] at halloc
  obtain ⟨rfl, rfl⟩ := halloc
  exact (s.base.ledger.layered s.layers).refusal h hstate

theorem Accounts.free {s : Stack} {held : Multiset Tag} {block : Block}
    (h : s.Accounts (block.tag ::ₘ held)) :
    ∃ s', s.free block = .done s' ∧ s'.Accounts held := by
  obtain ⟨state, hfree, hstate⟩ := (s.base.ledger.layered s.layers).free h
  exact ⟨{ s with state := state }, by simp only [Stack.free, allocator, hfree, Return.map], hstate⟩

theorem Accounts.trim {s : Stack} {held : Multiset Tag} (h : s.Accounts held) :
    ∃ s', s.trim = .done s' ∧ s'.Accounts held := by
  obtain ⟨state, htrim, hstate⟩ := (s.base.ledger.layered s.layers).trim h
  exact ⟨{ s with state := state }, by simp only [Stack.trim, allocator, htrim, Return.map], hstate⟩

end Stack

end DeviceMemory
