-- SUMMARY: Runs of a client whose requests are each answered by one of several allocators over the same states, and what it sees of the layers.
import DeviceMemory.Proofs.Allocator.Limited
import DeviceMemory.Proofs.Store.Grants

/-!
# Runs

A client makes requests one after another. The allocators that answer them share their
states and may differ in what a program leaves open, as the order in which a drain gives
blocks back, so a request comes with the allocator that answers it (`after`, `replies`).
What every one of the allocators keeps is kept by every run that does not trap
(`Client.after_keeps`).

Main statement: a client of a stack over an allocator with a limit gets the answers that it
would get from the base, whatever order the layers drain in on each of its requests
(`Client.reports_layered`).
-/

namespace DeviceMemory

namespace Allocator

/-- Granted blocks have the size asked for. -/
def Sized {σ : Type} (a : Allocator σ) : Prop :=
  ∀ {size zeroed s block s'}, a.alloc size zeroed s = (.ok block, s') → block.size = size

variable {σ : Type} {a : Allocator σ} {start : σ}

theorem Fresh.sized (ha : a.Fresh) : a.Sized := fun halloc => (ha halloc).1

/-- What an allocator has granted and not taken back is known from its history. -/
theorem Sized.keeps_history (hsized : a.Sized) : a.Keeps (a.History start) where
  free hs hfree := hs.free () hfree
  trim hs htrim := hs.trim () htrim
  grant hs halloc := ⟨hsized halloc, hs.grant () halloc⟩
  refusal hs halloc := hs.refusal () halloc

theorem Ledger.returns_history (l : Ledger a) (hstart : l.Accounts start 0) :
    a.Returns (a.History start) where
  free hs := by
    obtain ⟨s', hfree, -⟩ := l.free (l.keeps.history hstart hs)
    exact ⟨s', hfree, hs.free () hfree⟩
  trim hs := by
    obtain ⟨s', htrim, -⟩ := l.trim (l.keeps.history hstart hs)
    exact ⟨s', htrim, hs.trim () htrim⟩

end Allocator

/-- Every base allocator takes back what it has granted. -/
theorem Base.returns_history (base : Base) :
    base.allocator.Returns (base.allocator.History base.initial) :=
  base.ledger.returns_history base.ledger_initial

namespace Client

variable {ι σ : Type}

/-! ## Steps -/

section Step

variable {a : Allocator σ} {c : Client σ} {state : σ} {size place : Nat} {zeroed : Bool}
  {block : Block}

theorem step_granted (h : a.alloc size zeroed c.state = (.ok block, state)) :
    c.step a (.alloc size zeroed) = (.granted block.size, ⟨state, c.held ++ [block]⟩) := by
  simp only [step, h]

theorem step_refused {cause : DeviceError}
    (h : a.alloc size zeroed c.state = (.error (.error cause), state)) :
    c.step a (.alloc size zeroed) = (.refused cause.requested?, ⟨state, c.held⟩) := by
  simp only [step, h]

theorem step_alloc_trapped (h : a.alloc size zeroed c.state = (.error .trap, state)) :
    c.step a (.alloc size zeroed) = (.trapped, ⟨state, c.held⟩) := by
  simp only [step, h]

theorem step_free_none (a : Allocator σ) (h : c.held[place]? = none) :
    c.step a (.free place) = (.done, c) := by
  simp only [step, h]

theorem step_free (a : Allocator σ) (h : c.held[place]? = some block) :
    c.step a (.free place) = afterReturn (c.held.eraseIdx place) (a.free block c.state) := by
  simp only [step, h]

theorem step_trim (a : Allocator σ) (c : Client σ) :
    c.step a .trim = afterReturn c.held (a.trim c.state) := rfl

end Step

/-! ## Runs -/

/-- What the client is left with after requests that are made one after another. -/
def after (a : ι → Allocator σ) (c : Client σ) (rounds : List (ι × Request)) : Client σ :=
  rounds.foldl (fun c round => (c.step (a round.1) round.2).2) c

/-- The reports on them. -/
def replies (a : ι → Allocator σ) (c : Client σ) : List (ι × Request) → List Report
  | [] => []
  | round :: rounds =>
    (c.step (a round.1) round.2).1 :: (c.step (a round.1) round.2).2.replies a rounds

section Runs

variable (a : ι → Allocator σ) (c : Client σ)

@[simp] theorem after_nil : c.after a [] = c := rfl

theorem after_append (rounds rounds' : List (ι × Request)) :
    c.after a (rounds ++ rounds') = (c.after a rounds).after a rounds' :=
  List.foldl_append

theorem after_concat (rounds : List (ι × Request)) (i : ι) (request : Request) :
    c.after a (rounds ++ [(i, request)]) = ((c.after a rounds).step (a i) request).2 :=
  after_append a c rounds [(i, request)]

theorem replies_append (rounds rounds' : List (ι × Request)) :
    c.replies a (rounds ++ rounds') =
      c.replies a rounds ++ (c.after a rounds).replies a rounds' := by
  induction rounds generalizing c with
  | nil => rfl
  | cons round rounds ih => exact congrArg _ (ih _)

theorem replies_concat (rounds : List (ι × Request)) (i : ι) (request : Request) :
    c.replies a (rounds ++ [(i, request)]) =
      c.replies a rounds ++ [((c.after a rounds).step (a i) request).1] :=
  replies_append a c rounds [(i, request)]

/-- Requests that one allocator answers are reported on as it reports on them. -/
theorem replies_map_mk (i : ι) (requests : List Request) :
    c.replies a (requests.map (Prod.mk i)) = c.reports (a i) requests := by
  induction requests generalizing c with
  | nil => rfl
  | cons request requests ih => exact congrArg _ (ih _)

end Runs

variable {a : ι → Allocator σ} {c : Client σ}

/-- A run that does not trap has not trapped before its last request, nor on it. -/
theorem not_trapped_concat {rounds : List (ι × Request)} {i : ι} {request : Request}
    (h : Report.trapped ∉ c.replies a (rounds ++ [(i, request)])) :
    Report.trapped ∉ c.replies a rounds ∧
    ((c.after a rounds).step (a i) request).1 ≠ .trapped := by
  rw [replies_concat, List.mem_append, List.mem_singleton, not_or] at h
  exact ⟨h.1, Ne.symm h.2⟩

theorem not_trapped_before {before rounds : List (ι × Request)} (hbefore : before <+: rounds)
    (h : Report.trapped ∉ c.replies a rounds) : Report.trapped ∉ c.replies a before := by
  obtain ⟨rest, rfl⟩ := hbefore
  rw [replies_append, List.mem_append, not_or] at h
  exact h.1

/-! ## Books -/

variable {Accounts : σ → Multiset Tag → Prop}

/-- Books that an allocator keeps are right after every request that does not trap. -/
theorem step_keeps {a : Allocator σ} (ha : a.Keeps Accounts)
    (hc : Accounts c.state (Parked.tags c.held)) {request : Request}
    (hdone : (c.step a request).1 ≠ .trapped) :
    Accounts (c.step a request).2.state (Parked.tags (c.step a request).2.held) := by
  cases request with
  | alloc size zeroed =>
    rcases halloc : a.alloc size zeroed c.state with ⟨(cause | _) | block, state⟩
    · rw [step_refused halloc]
      exact ha.refusal hc halloc
    · rw [step_alloc_trapped halloc] at hdone
      exact absurd rfl hdone
    · rw [step_granted halloc]
      exact (Alike.tags_concat c.held block).symm ▸ (ha.grant hc halloc).2
  | write place offset bytes =>
    obtain ⟨-, hstate, htags⟩ := Alike.step_write a c place offset bytes
    rwa [hstate, Parked.tags, htags]
  | free place =>
    rcases hblock : c.held[place]? with _ | block
    · rwa [step_free_none a hblock]
    · rw [step_free a hblock] at hdone ⊢
      rw [Alike.tags_eraseIdx hblock] at hc
      rcases hfree : a.free block c.state with state | state
      · exact ha.free hc hfree
      · rw [hfree] at hdone
        exact absurd rfl hdone
  | trim =>
    rw [step_trim] at hdone ⊢
    rcases htrim : a.trim c.state with state | state
    · exact ha.trim hc htrim
    · rw [htrim] at hdone
      exact absurd rfl hdone

theorem after_keeps (ha : ∀ i, (a i).Keeps Accounts) (hc : Accounts c.state (Parked.tags c.held))
    {rounds : List (ι × Request)} (hdone : Report.trapped ∉ c.replies a rounds) :
    Accounts (c.after a rounds).state (Parked.tags (c.after a rounds).held) := by
  induction rounds using List.reverseRecOn with
  | nil => exact hc
  | append_singleton rounds round ih =>
    obtain ⟨hbefore, hlast⟩ := not_trapped_concat hdone
    rw [after_concat]
    exact step_keeps (ha round.1) (ih hbefore) hlast

/-! ## Layers over a limit -/

variable {τ : Type} {limit : Nat} {admits : Nat → Prop}

/-- Clients that are alike are told the same, whichever allocators answer the first one. -/
theorem Alike.replies_eq {a' : Allocator τ} {c' : Client τ} {Accounts' : τ → Multiset Tag → Prop}
    (h : Alike Accounts Accounts' c c') (ha : ∀ i, (a i).Rationed limit admits Accounts)
    (ha' : a'.Rationed limit admits Accounts') (rounds : List (ι × Request)) :
    c.replies a rounds = c'.reports a' (rounds.map Prod.snd) ∧
    List.Forall₂ Request.Admits (rounds.map Prod.snd) (c.replies a rounds) := by
  induction rounds generalizing c c' with
  | nil => exact ⟨rfl, .nil⟩
  | cons round rounds ih =>
    obtain ⟨hreport, hadmitted, halike⟩ := h.step (ha round.1) ha' round.2
    obtain ⟨hreplies, hall⟩ := ih halike
    exact ⟨congrArg₂ List.cons hreport hreplies, .cons hadmitted hall⟩

/-- Over an allocator with a limit, layers are not seen: whatever they park, and in whatever
    order each of them drains on each request, a client that gives back only what it holds gets
    the very answers that the base would give it without them, and so it does from the layers
    that drain oldest first. Every request for memory is granted with its size or refused with
    its size, and no other request fails. -/
theorem reports_layered {base : Allocator σ} {start : σ}
    (hbase : base.Limited start limit admits) (hlimit : limit < Word.limit)
    (layers : List Layer) (rounds : List (DrainOrders σ layers × Request)) :
    let requests := rounds.map Prod.snd
    replies (base.layeredBy layers) ⟨Layered.initial start layers, []⟩ rounds =
      reports base ⟨start, []⟩ requests ∧
    reports (base.layered layers) ⟨Layered.initial start layers, []⟩ requests =
      reports base ⟨start, []⟩ requests ∧
    List.Forall₂ Request.Admits requests (reports base ⟨start, []⟩ requests) := by
  intro requests
  have hrationed := hbase.rationed
  have halike : Alike (Allocator.LayeredAccounts (base.History start) layers)
      (base.History start) ⟨Layered.initial start layers, []⟩ ⟨start, []⟩ :=
    ⟨Allocator.layeredAccounts_initial .start layers, .start, rfl⟩
  have hlayered := halike.replies_eq (hrationed.layeredBy hlimit layers) hrationed
  obtain ⟨hreplies, hadmitted⟩ := hlayered rounds
  have holdest := (hlayered (requests.map (Prod.mk (.oldestFirst layers)))).1
  rw [replies_map_mk, ← base.layered_eq, List.map_map] at holdest
  exact ⟨hreplies, holdest.trans (congrArg _ (List.map_id requests)), hreplies ▸ hadmitted⟩

/-- Two recycling layers, one of them over a meter. -/
def parkingLayers : List Layer := [.recycling 1, .metered, .recycling 2]

/-- Blocks of four, four and eight bytes go back, and the outer layer parks two of them. A
    request for sixteen bytes makes it drain newest first. Once that block is parked as well, a
    request for eight bytes makes it drain oldest first. -/
def mixedRounds : List (DrainOrders Allocator.Quota parkingLayers × Request) :=
  [.alloc 4 false, .alloc 4 false, .alloc 8 false, .alloc 1 true, .free 0, .free 0, .free 0,
    .alloc 16 false].map (Prod.mk (.newestFirst, .oldestFirst, ())) ++
  [.free 0, .alloc 8 false].map (Prod.mk (.oldestFirst, .newestFirst, ()))

/-- A stack of these layers serves its client as its base of sixteen bytes does. -/
theorem reports_layered_sixteen :
    replies ((Allocator.limit 16).layeredBy parkingLayers)
      ⟨Layered.initial ⟨0, 0⟩ parkingLayers, []⟩ mixedRounds =
    [.granted 4, .granted 4, .granted 8, .refused (some 1), .done, .done, .done, .granted 16,
      .done, .granted 8] := by
  have hlimit : 16 < Word.limit := by decide
  have hbase : reports (Allocator.limit 16) ⟨⟨0, 0⟩, []⟩ (mixedRounds.map Prod.snd) =
      [.granted 4, .granted 4, .granted 8, .refused (some 1), .done, .done, .done, .granted 16,
        .done, .granted 8] := by decide
  exact (reports_layered (Allocator.limited_limit 16) hlimit _ _).1.trans hbase

end Client

end DeviceMemory
