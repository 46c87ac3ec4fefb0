-- SUMMARY: As long as what an allocator owes leaves room in a word, every request is granted or refused with its size, under any layers.
import DeviceMemory.Proofs.Allocator.Limited

/-!
# Answers to requests

A base allocator grants no more at a time than a process can address and never traps. A
meter traps on a grant that its counter of bytes cannot hold, so a stack answers every
request as long as all that its base owes, parked blocks included, leaves that much room
in a word (`Stack.Accounts.answer`). An allocator that answers so is `Answering`, and layers
over it are.
-/

namespace DeviceMemory

namespace Allocator

variable {σ : Type} {a : Allocator σ} {Accounts : σ → Multiset Tag → Prop}

/-- A grant that the books have room for, or a refusal that reports the size and leaves the books
    as they are. -/
def Replied (Accounts : σ → Multiset Tag → Prop) (size : Nat) (held : Multiset Tag) :
    Grant × σ → Prop
  | (.ok _, _) => Tag.total held + size < Word.limit
  | (.error (.error cause), s) => cause.requested? = some size ∧ Accounts s held
  | (.error .trap, _) => False

/-- In states of which `Accounts` says what was granted and not given back, every request is
    granted within a word or refused with its size. -/
structure Answering (a : Allocator σ) (Accounts : σ → Multiset Tag → Prop) : Prop
    extends a.Returns Accounts where
  within : ∀ {s held}, Accounts s held → Tag.total held < Word.limit
  alloc : ∀ {s held}, Accounts s held → ∀ size zeroed,
    Replied Accounts size held (a.alloc size zeroed s)

namespace Answering

/-- A grant within a word is counted. -/
theorem metered (ha : a.Answering Accounts) : a.metered.Answering (MeteredAccounts Accounts) where
  toReturns := ha.toReturns.metered
  within h := ha.within h.2
  alloc := by
    rintro s held ⟨hcounts, hinner⟩ size zeroed
    have hreplied := ha.alloc hinner size zeroed
    simp only [Allocator.metered]
    rcases halloc : a.alloc size zeroed s.inner with ⟨(fault | block), state⟩
    · rw [halloc] at hreplied
      cases fault with
      | error cause => exact ⟨hreplied.1, hcounts, hreplied.2⟩
      | trap => exact hreplied
    · rw [halloc] at hreplied
      have hfits : s.meter.liveBytes + size < Word.limit := hcounts.bytes ▸ hreplied
      simp only [Word.add?_eq_some_iff.mpr ⟨hfits, rfl⟩]
      exact hreplied

/-- After a drain the allocator below owes only what clients hold, and answers for itself. -/
theorem replied_allocBelow (ha : a.Answering Accounts) {s : Recycling σ} {held : Multiset Tag}
    (hs : RecyclingAccounts Accounts s held) (size : Nat) (zeroed : Bool) :
    Replied (RecyclingAccounts Accounts) size held (a.allocBelow size zeroed s) := by
  have hreplied := ha.alloc hs size zeroed
  simp only [Allocator.allocBelow]
  rcases hfirst : a.alloc size zeroed s.inner with ⟨(fault | block), state⟩
  · rw [hfirst] at hreplied
    cases fault with
    | error first =>
      obtain ⟨hreported, hstate⟩ := hreplied
      -- the books of what is parked and held are those of what is held, once nothing is parked
      obtain ⟨drained, hdrain, hdrained⟩ := drain_done ha.free ha.trim (s := ⟨s.parked, state⟩)
        hstate
      simp only [hdrain]
      have hretried := ha.alloc hdrained size zeroed
      rcases hsecond : a.alloc size zeroed drained with ⟨(fault | block), state'⟩
      · rw [hsecond] at hretried
        cases fault with
        | error second => exact ⟨hreported, by simpa [RecyclingAccounts] using hretried.2⟩
        | trap => exact hretried
      · rw [hsecond] at hretried
        exact hretried
    | trap => exact hreplied
  · rw [hfirst] at hreplied
    simp only [Replied, Tag.total_add] at hreplied ⊢
    omega

/-- What is parked was within a word before it is handed out again. -/
theorem recycling (ha : a.Answering Accounts) (capacity : Nat) :
    (a.recycling capacity).Answering (RecyclingAccounts Accounts) where
  toReturns := ha.toReturns.recycling capacity
  within := by
    intro s held hs
    have hlt := ha.within hs
    rw [Tag.total_add] at hlt
    omega
  alloc := by
    intro s held hs size zeroed
    simp only [Allocator.recycling]
    split
    next b others htake =>
      obtain ⟨hsize, htags⟩ := Parked.tags_of_take? htake
      have hlt := ha.within hs
      rw [htags, Tag.total_add, Tag.total_cons, Block.tag_size, hsize] at hlt
      simp only [Replied]
      omega
    next => exact ha.replied_allocBelow hs size zeroed

theorem layered (ha : a.Answering Accounts) (layers : List Layer) :
    (a.layered layers).Answering (LayeredAccounts Accounts layers) := by
  induction layers with
  | nil => exact ha
  | cons layer layers ih =>
    cases layer with
    | metered => exact ih.metered
    | recycling capacity => exact ih.recycling capacity

end Answering

/-! ## Base allocators -/

/-- A grant of a size that a process can address, or a refusal that reports the size. -/
def BaseReply (size : Nat) : Grant → Prop
  | .ok _ => size < HostMemory.addressable
  | .error (.error cause) => cause.requested? = some size
  | .error .trap => False

theorem baseReply_host (size : Nat) (zeroed : Bool) (next : Nat) :
    BaseReply size (host.alloc size zeroed next).1 := by
  simp only [host, HostMemory.grant]
  rcases hrefusal : HostMemory.refusal? size with _ | reason
  · rw [HostMemory.refusal?] at hrefusal
    split at hrefusal
    next => cases hrefusal
    next =>
      split at hrefusal
      next => cases hrefusal
      next hsize => exact Nat.not_le.mp hsize
  · rfl

end Allocator

open Allocator in
theorem Base.reply (base : Base) (size : Nat) (zeroed : Bool) (s : base.State) :
    BaseReply size (base.allocator.alloc size zeroed s).1 := by
  cases base with
  | host => exact baseReply_host size zeroed s
  | budget requests device =>
    simp only [Base.allocator, Allocator.budget]
    split
    next => rfl
    next => exact baseReply_host size zeroed _
  | limit bytes =>
    have hhost := baseReply_host size zeroed (Quota.next s)
    simp only [Base.allocator, Allocator.limit]
    split
    next => rfl
    next =>
      split
      next hgrant =>
        rw [hgrant] at hhost
        exact hhost
      next hgrant =>
        rw [hgrant] at hhost
        exact hhost

/-- What a base owes leaves room in a word for a block that a process can address. -/
def Base.Roomy (base : Base) (s : base.State) (held : Multiset Tag) : Prop :=
  base.ledger.Accounts s held ∧ Tag.total held + HostMemory.addressable ≤ Word.limit

theorem Base.answering (base : Base) : base.allocator.Answering base.Roomy where
  free := by
    rintro s held block ⟨hs, hroom⟩
    obtain ⟨s', hfree, hs'⟩ := base.ledger.free hs
    rw [Tag.total_cons] at hroom
    exact ⟨s', hfree, hs', by omega⟩
  trim := by
    rintro s held ⟨hs, hroom⟩
    obtain ⟨s', htrim, hs'⟩ := base.ledger.trim hs
    exact ⟨s', htrim, hs', hroom⟩
  within := by
    rintro s held ⟨-, hroom⟩
    have hpos : 0 < HostMemory.addressable := by decide
    omega
  alloc := by
    rintro s held ⟨hs, hroom⟩ size zeroed
    have hreply := base.reply size zeroed s
    rcases halloc : base.allocator.alloc size zeroed s with ⟨(fault | block), s'⟩
    · rw [halloc] at hreply
      cases fault with
      | error cause => exact ⟨hreply, base.ledger.refusal hs halloc, hroom⟩
      | trap => exact hreply
    · rw [halloc] at hreply
      exact Nat.lt_of_lt_of_le (Nat.add_lt_add_left hreply _) hroom

/-! ## Stacks -/

/-- The bytes that layers have parked. -/
def Layered.parkedBytes {σ : Type} : (layers : List Layer) → Layered σ layers → Nat
  | [] => fun _ => 0
  | .metered :: layers => fun s => parkedBytes layers (Metered.inner s)
  | .recycling _ :: layers => fun s =>
    Tag.total (Parked.tags (Recycling.parked s)) + parkedBytes layers (Recycling.inner s)

theorem Layered.parkedBytes_initial {σ : Type} (base : σ) :
    (layers : List Layer) → parkedBytes layers (initial base layers) = 0
  | [] => rfl
  | .metered :: layers => parkedBytes_initial base layers
  | .recycling _ :: layers => (Nat.zero_add _).trans (parkedBytes_initial base layers)

/-- A base owes what clients hold and what the layers have parked. -/
theorem Allocator.Ledger.layeredAccounts {σ : Type} {a : Allocator σ} (l : Ledger a)
    {room limit : Nat} : (layers : List Layer) → {s : Layered σ layers} → {held : Multiset Tag} →
      (l.layered layers).Accounts s held →
      Tag.total held + Layered.parkedBytes layers s + room ≤ limit →
      LayeredAccounts (fun s held => l.Accounts s held ∧ Tag.total held + room ≤ limit) layers s
        held
  | [], _, _, h, hroom => ⟨h, hroom⟩
  | .metered :: layers, _, _, h, hroom => ⟨h.1, l.layeredAccounts layers h.2 hroom⟩
  | .recycling _ :: layers, s, held, h, hroom => by
    refine l.layeredAccounts layers h.owed ?_
    rw [Tag.total_add]
    simp only [Layered.parkedBytes] at hroom
    omega

namespace Stack

def parkedBytes (s : Stack) : Nat := Layered.parkedBytes s.layers s.state

@[simp] theorem parkedBytes_new (base : Base) (layers : List Layer) :
    (new base layers).parkedBytes = 0 :=
  Layered.parkedBytes_initial base.initial layers

/-- A stack with room grants every request or refuses it with its size. -/
theorem Accounts.answer {s : Stack} {held : Multiset Tag} (h : s.Accounts held)
    (hroom : Tag.total held + s.parkedBytes + HostMemory.addressable ≤ Word.limit) (size : Nat)
    (zeroed : Bool) :
    (∃ block, (s.alloc size zeroed).1 = .ok block) ∨
      ∃ device reason, (s.alloc size zeroed).1 =
        .error (.error (.allocationFailed device size reason)) := by
  have hbooks := s.base.ledger.layeredAccounts s.layers h hroom
  have hreplied := (s.base.answering.layered s.layers).alloc hbooks size zeroed
  change (∃ block, (s.allocator.alloc size zeroed s.state).1 = .ok block) ∨
    ∃ device reason, (s.allocator.alloc size zeroed s.state).1 =
      .error (.error (.allocationFailed device size reason))
  rcases halloc : s.allocator.alloc size zeroed s.state with ⟨(fault | block), state⟩
  · rw [allocator] at halloc
    rw [halloc] at hreplied
    cases fault with
    | error cause =>
      cases cause <;> cases hreplied.1
      exact .inr ⟨_, _, rfl⟩
    | trap => exact hreplied.elim
  · exact .inl ⟨block, rfl⟩

end Stack

end DeviceMemory
