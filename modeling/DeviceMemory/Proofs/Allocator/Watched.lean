-- SUMMARY: The calls that reach an allocator, written down beside its state, and why that makes no difference above it.
import DeviceMemory.Proofs.Allocator.Books
import DeviceMemory.Proofs.Allocator.Runs

/-!
# Watched allocators

What reaches an allocator under layers is not seen from above. A watched allocator writes down
each call, with the answer to a request, and is otherwise the same. Layers over it do what
they do over the allocator itself (`Tracks.layeredBy`), so forgetting the calls after a run
leaves what the run would have led to without them (`Client.after_tracks`), and what is said
of the calls is said of the program that does not write them down.
-/

namespace DeviceMemory

/-! ## Calls -/

/-- A call of an allocator, with the answer to a request. -/
inductive Call where
  | alloc (size : Nat) (zeroed : Bool) (answer : Grant)
  | free (block : Block)
  | trim

namespace Call

/-- The blocks that were granted in these calls. -/
def granted : List Call → Multiset Tag
  | [] => 0
  | .alloc _ _ (.ok block) :: calls => block.tag ::ₘ granted calls
  | _ :: calls => granted calls

/-- The blocks that were given back in them. -/
def freed : List Call → Multiset Tag
  | [] => 0
  | .free block :: calls => block.tag ::ₘ freed calls
  | _ :: calls => freed calls

end Call

/-- A state with the calls that led to it, the last one first. -/
structure Watched (σ : Type) where
  calls : List Call
  inner : σ

/-- The same blocks have been granted. -/
def Watched.SameGrants {σ : Type} (s s' : Watched σ) : Prop :=
  Call.granted s'.calls = Call.granted s.calls

theorem Watched.SameGrants.refl {σ : Type} (s : Watched σ) : s.SameGrants s := rfl

namespace Allocator

variable {σ τ : Type}

/-- The allocator, which writes its calls down. -/
def watched (inner : Allocator σ) : Allocator (Watched σ) where
  name := inner.name
  alloc size zeroed s :=
    let (answer, state) := inner.alloc size zeroed s.inner
    (answer, ⟨.alloc size zeroed answer :: s.calls, state⟩)
  free block s := (inner.free block s.inner).map (Watched.mk (.free block :: s.calls))
  trim s := (inner.trim s.inner).map (Watched.mk (.trim :: s.calls))
  usage s := inner.usage s.inner

section Calls

variable {a : Allocator σ} {s s' : Watched σ}

theorem of_watched_alloc {size : Nat} {zeroed : Bool} {answer : Grant}
    (h : a.watched.alloc size zeroed s = (answer, s')) :
    a.alloc size zeroed s.inner = (answer, s'.inner) ∧
    s'.calls = .alloc size zeroed answer :: s.calls := by
  rcases halloc : a.alloc size zeroed s.inner with ⟨answer', state⟩
  simp only [watched, halloc] at h
  cases h
  exact ⟨rfl, rfl⟩

theorem of_watched_free {block : Block} (h : a.watched.free block s = .done s') :
    a.free block s.inner = .done s'.inner ∧ s'.calls = .free block :: s.calls := by
  simp only [watched] at h
  rcases hfree : a.free block s.inner with state | state <;> rw [hfree] at h <;> cases h
  exact ⟨rfl, rfl⟩

theorem of_watched_trim (h : a.watched.trim s = .done s') :
    a.trim s.inner = .done s'.inner ∧ s'.calls = .trim :: s.calls := by
  simp only [watched] at h
  rcases htrim : a.trim s.inner with state | state <;> rw [htrim] at h <;> cases h
  exact ⟨rfl, rfl⟩

end Calls

/-! ## Books -/

/-- The books of a watched allocator: what was granted is what was given back and what clients
    hold. -/
def WatchedAccounts (Accounts : σ → Multiset Tag → Prop) (s : Watched σ) (held : Multiset Tag) :
    Prop :=
  Call.granted s.calls = Call.freed s.calls + held ∧ Accounts s.inner held

section Books

variable {a : Allocator σ} {Accounts : σ → Multiset Tag → Prop}

theorem Returns.watched (ha : a.Returns Accounts) :
    a.watched.Returns (WatchedAccounts Accounts) where
  free := by
    rintro s held block ⟨hcalls, hinner⟩
    obtain ⟨state, hfree, hstate⟩ := ha.free hinner
    refine ⟨⟨.free block :: s.calls, state⟩, by simp only [Allocator.watched, hfree, Return.map],
      ?_, hstate⟩
    simpa only [Call.granted, Call.freed, Multiset.cons_add, Multiset.add_cons] using hcalls
  trim := by
    rintro s held ⟨hcalls, hinner⟩
    obtain ⟨state, htrim, hstate⟩ := ha.trim hinner
    exact ⟨⟨.trim :: s.calls, state⟩, by simp only [Allocator.watched, htrim, Return.map],
      hcalls, hstate⟩

theorem Keeps.watched (ha : a.Keeps Accounts) : a.watched.Keeps (WatchedAccounts Accounts) where
  free := by
    rintro s s' held block ⟨hcalls, hinner⟩ h
    obtain ⟨hfree, hcall⟩ := of_watched_free h
    refine ⟨?_, ha.free hinner hfree⟩
    simpa only [hcall, Call.granted, Call.freed, Multiset.cons_add, Multiset.add_cons] using hcalls
  trim := by
    rintro s s' held ⟨hcalls, hinner⟩ h
    obtain ⟨htrim, hcall⟩ := of_watched_trim h
    refine ⟨?_, ha.trim hinner htrim⟩
    simpa only [hcall, Call.granted, Call.freed] using hcalls
  grant := by
    rintro s s' held size zeroed block ⟨hcalls, hinner⟩ h
    obtain ⟨halloc, hcall⟩ := of_watched_alloc h
    obtain ⟨hsize, hstate⟩ := ha.grant hinner halloc
    refine ⟨hsize, ?_, hstate⟩
    simp only [hcall, Call.granted, Call.freed, Multiset.add_cons, hcalls]
  refusal := by
    rintro s s' held size zeroed cause ⟨hcalls, hinner⟩ h
    obtain ⟨halloc, hcall⟩ := of_watched_alloc h
    refine ⟨?_, ha.refusal hinner halloc⟩
    simpa only [hcall, Call.granted, Call.freed] using hcalls

/-- Nothing is granted while memory goes back. -/
theorem settles_sameGrants (s : Watched σ) : a.watched.Settles fun s' _ => s.SameGrants s' where
  free := by
    intro s' s'' held block hs h
    simpa only [Watched.SameGrants, (of_watched_free h).2, Call.granted] using hs
  trim := by
    intro s' s'' held hs h
    simpa only [Watched.SameGrants, (of_watched_trim h).2, Call.granted] using hs

end Books

/-! ## Tracking -/

/-- What an allocator does to the states that `f` shows of another one's is what that one
    does. -/
structure Tracks (f : τ → σ) (b : Allocator τ) (a : Allocator σ) : Prop where
  alloc : ∀ size zeroed s,
    a.alloc size zeroed (f s) = ((b.alloc size zeroed s).1, f (b.alloc size zeroed s).2)
  free : ∀ block s, a.free block (f s) = (b.free block s).map f
  trim : ∀ s, a.trim (f s) = (b.trim s).map f
  usage : ∀ s, a.usage (f s) = b.usage s

theorem tracks_watched (a : Allocator σ) : Tracks Watched.inner a.watched a where
  alloc _ _ _ := rfl
  free block s := by
    simp only [watched]
    cases a.free block s.inner <;> rfl
  trim s := by
    simp only [watched]
    cases a.trim s.inner <;> rfl
  usage _ := rfl

namespace Tracks

variable {f : τ → σ} {b : Allocator τ} {a : Allocator σ}

theorem metered (h : Tracks f b a) : Tracks (Metered.map f) b.metered a.metered where
  alloc size zeroed s := by
    simp only [Allocator.metered, Metered.map, h.alloc]
    rcases b.alloc size zeroed s.inner with ⟨fault | block, state⟩
    · rfl
    · cases Word.add? s.meter.liveBytes size <;> rfl
  free block s := by
    simp only [Allocator.metered, Metered.map, h.free]
    cases b.free block s.inner <;> rfl
  trim s := by
    simp only [Allocator.metered, Metered.map, h.trim]
    cases b.trim s.inner <;> rfl
  usage s := by
    simp only [Allocator.metered, Metered.map, h.usage]

theorem freeAll (h : Tracks f b a) (blocks : List Block) (s : τ) :
    a.freeAll blocks (f s) = (b.freeAll blocks s).map f := by
  induction blocks generalizing s with
  | nil => rfl
  | cons block blocks ih =>
    simp only [Allocator.freeAll, h.free]
    cases b.free block s with
    | done state => exact ih state
    | trapped state => rfl

theorem drainBy (h : Tracks f b a) (order : DrainOrder σ) (s : Recycling τ) :
    a.drainBy order (s.map f) = (b.drainBy (order.comap f) s).map (Recycling.map f) := by
  have hblocks : (order.comap f).blocks s = order.blocks (s.map f) := rfl
  have hfreed : a.freeAll (order.blocks (s.map f)) (s.map f).inner =
      (b.freeAll (order.blocks (s.map f)) s.inner).map f := h.freeAll _ s.inner
  simp only [Allocator.drainBy, hblocks, hfreed]
  cases b.freeAll (order.blocks (s.map f)) s.inner with
  | trapped state => rfl
  | done state =>
    simp only [Return.map, Return.bind, h.trim]
    cases b.trim state <;> rfl

theorem allocBelowBy (h : Tracks f b a) (order : DrainOrder σ) (size : Nat) (zeroed : Bool)
    (s : Recycling τ) :
    a.allocBelowBy order size zeroed (s.map f) =
      ((b.allocBelowBy (order.comap f) size zeroed s).1,
        (b.allocBelowBy (order.comap f) size zeroed s).2.map f) := by
  have hfirst : a.alloc size zeroed (s.map f).inner = _ := h.alloc size zeroed s.inner
  simp only [Allocator.allocBelowBy, hfirst]
  rcases b.alloc size zeroed s.inner with ⟨(first | _) | block, state⟩
  · have hdrain : a.drainBy order { s.map f with inner := f state } = _ :=
      h.drainBy order { s with inner := state }
    simp only [hdrain]
    cases b.drainBy (order.comap f) { s with inner := state } with
    | trapped drained => rfl
    | done drained =>
      have hsecond : a.alloc size zeroed (drained.map f).inner = _ :=
        h.alloc size zeroed drained.inner
      simp only [Return.map, hsecond]
      rcases b.alloc size zeroed drained.inner with ⟨(second | _) | block, state'⟩ <;> rfl
  · rfl
  · rfl

theorem recyclingBy (h : Tracks f b a) (order : DrainOrder σ) (capacity : Nat) :
    Tracks (Recycling.map f) (b.recyclingBy (order.comap f) capacity)
      (a.recyclingBy order capacity) where
  alloc size zeroed s := by
    have hbelow := h.allocBelowBy order size zeroed s
    simp only [Allocator.recyclingBy]
    have hparked : (s.map f).parked = s.parked := rfl
    rw [hparked]
    cases Parked.take? size s.parked with
    | some found => rfl
    | none => exact hbelow
  free block s := by
    simp only [Allocator.recyclingBy, Allocator.recycling, Recycling.map, h.free]
    split
    · rfl
    · cases b.free block s.inner <;> rfl
  trim s := h.drainBy order s
  usage s := by
    simp only [Allocator.recyclingBy, Allocator.recycling, Recycling.map, h.usage]

theorem layeredBy (h : Tracks f b a) :
    (layers : List Layer) → (orders : DrainOrders σ layers) →
      Tracks (Layered.map f layers) (b.layeredBy layers (orders.comap f layers))
        (a.layeredBy layers orders)
  | [], _ => h
  | .metered :: layers, orders => (h.layeredBy layers orders).metered
  | .recycling capacity :: layers, orders =>
    (h.layeredBy layers (Prod.snd orders)).recyclingBy (Prod.fst orders) capacity

end Tracks

end Allocator

/-! ## Runs -/

namespace Client

variable {ι σ τ : Type} {f : τ → σ}

/-- The same blocks held over another state. -/
def map (f : τ → σ) (c : Client τ) : Client σ := ⟨f c.state, c.held⟩

theorem afterReturn_map (held : List Block) (r : Return τ) :
    afterReturn held (r.map f) = ((afterReturn held r).1, (afterReturn held r).2.map f) := by
  cases r <;> rfl

theorem step_tracks {b : Allocator τ} {a : Allocator σ} (h : Allocator.Tracks f b a)
    (c : Client τ) (request : Request) :
    (c.map f).step a request = ((c.step b request).1, (c.step b request).2.map f) := by
  cases request with
  | alloc size zeroed =>
    have halloc : a.alloc size zeroed (c.map f).state = _ := h.alloc size zeroed c.state
    simp only [step, halloc]
    rcases b.alloc size zeroed c.state with ⟨(cause | _) | block, state⟩ <;> rfl
  | write place offset bytes =>
    simp only [step, map]
    cases c.held[place]?.bind (·.write? offset bytes) <;> rfl
  | free place =>
    rcases hblock : c.held[place]? with _ | block
    · rw [step_free_none b hblock]
      exact step_free_none a hblock
    · rw [step_free b hblock, ← afterReturn_map, ← h.free]
      exact step_free a hblock
  | trim => rw [step_trim, step_trim, ← afterReturn_map, ← h.trim, map]

theorem after_tracks {b : ι → Allocator τ} {a : ι → Allocator σ}
    (h : ∀ i, Allocator.Tracks f (b i) (a i)) (c : Client τ) (rounds : List (ι × Request)) :
    (c.map f).after a rounds = (c.after b rounds).map f ∧
    (c.map f).replies a rounds = c.replies b rounds := by
  induction rounds generalizing c with
  | nil => exact ⟨rfl, rfl⟩
  | cons round rounds ih =>
    have hstep := step_tracks (h round.1) c round.2
    obtain ⟨hafter, hreplies⟩ := ih (c.step (b round.1) round.2).2
    simp only [after, List.foldl_cons, replies, hstep] at hafter hreplies ⊢
    exact ⟨hafter, congrArg _ hreplies⟩

end Client

end DeviceMemory
