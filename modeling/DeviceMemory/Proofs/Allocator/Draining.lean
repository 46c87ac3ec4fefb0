-- SUMMARY: Trimming a stack of layers gives its base every block that no client holds, whatever the layers and the order of their drains.
import DeviceMemory.Proofs.Allocator.Watched

/-!
# Trimming a stack

A layer that drains gives its blocks to the layer below, which may park them, or pass them on
and be trimmed itself. Books that the base keeps are kept by every layer, so at the end of a trim
they are right with nothing parked anywhere, and then they speak of what clients hold alone
(`trim_drains`). What a trim leaves of the layers follows from these books, as does what has been
given back by then. So neither depends on the order of the drains, which may be another one for
every request.
-/

namespace DeviceMemory

variable {σ : Type}

/-! ## Layers with nothing parked -/

namespace Layered

/-- The state of the base. -/
def base : (layers : List Layer) → Layered σ layers → σ
  | [] => id
  | .metered :: layers => fun s => base layers (Metered.inner s)
  | .recycling _ :: layers => fun s => base layers (Recycling.inner s)

/-- No layer has anything parked, and every meter counts these blocks. -/
def Emptied (held : Multiset Tag) : (layers : List Layer) → Layered σ layers → Prop
  | [], _ => True
  | .metered :: layers, s =>
    (Metered.meter s).Counts held ∧ Emptied held layers (Metered.inner s)
  | .recycling _ :: layers, s =>
    Recycling.parked s = [] ∧ Emptied held layers (Recycling.inner s)

/-- Every meter shows the same past, and the states of the base are alike. -/
def SamePast (Alike : σ → σ → Prop) :
    (layers : List Layer) → Layered σ layers → Layered σ layers → Prop
  | [] => Alike
  | .metered :: layers => fun s s' =>
    (Metered.meter s).SamePast (Metered.meter s') ∧
      SamePast Alike layers (Metered.inner s) (Metered.inner s')
  | .recycling _ :: layers => fun s s' =>
    SamePast Alike layers (Recycling.inner s) (Recycling.inner s')

theorem SamePast.refl {Alike : σ → σ → Prop} (hrefl : ∀ s, Alike s s) :
    (layers : List Layer) → (s : Layered σ layers) → SamePast Alike layers s s
  | [], s => hrefl s
  | .metered :: layers, s => ⟨⟨rfl, rfl⟩, SamePast.refl hrefl layers (Metered.inner s)⟩
  | .recycling _ :: layers, s => SamePast.refl hrefl layers (Recycling.inner s)

theorem SamePast.base {Alike : σ → σ → Prop} :
    (layers : List Layer) → {s s' : Layered σ layers} → SamePast Alike layers s s' →
      Alike (base layers s) (base layers s')
  | [], _, _, h => h
  | .metered :: layers, _, _, h => SamePast.base layers h.2
  | .recycling _ :: layers, _, _, h => SamePast.base layers h

end Layered

/-- A meter is known from what it counts now and from its past. -/
theorem Meter.Counts.unique {m m₁ m₂ : Meter} {held : Multiset Tag} (h₁ : m₁.Counts held)
    (h₂ : m₂.Counts held) (hpast₁ : m.SamePast m₁) (hpast₂ : m.SamePast m₂) : m₁ = m₂ := by
  rcases m₁ with ⟨buffers₁, bytes₁, peak₁, total₁⟩
  rcases m₂ with ⟨buffers₂, bytes₂, peak₂, total₂⟩
  obtain rfl : buffers₁ = buffers₂ := h₁.buffers.trans h₂.buffers.symm
  obtain rfl : bytes₁ = bytes₂ := h₁.bytes.trans h₂.bytes.symm
  obtain rfl : peak₁ = peak₂ := hpast₁.peak.trans hpast₂.peak.symm
  obtain rfl : total₁ = total₂ := hpast₁.total.trans hpast₂.total.symm
  rfl

/-- Layers with nothing parked are known from what their meters count and from their past. -/
theorem Layered.Emptied.unique {Alike : σ → σ → Prop} {held : Multiset Tag} :
    (layers : List Layer) → {s s₁ s₂ : Layered σ layers} →
      Layered.Emptied held layers s₁ → Layered.Emptied held layers s₂ →
      Layered.SamePast Alike layers s s₁ → Layered.SamePast Alike layers s s₂ →
      Layered.map (fun _ => ()) layers s₁ = Layered.map (fun _ => ()) layers s₂
  | [], _, _, _, _, _, _, _ => rfl
  | .metered :: layers, _, _, _, h₁, h₂, hpast₁, hpast₂ =>
    congrArg₂ Metered.mk (h₁.1.unique h₂.1 hpast₁.1 hpast₂.1)
      (Layered.Emptied.unique layers h₁.2 h₂.2 hpast₁.2 hpast₂.2)
  | .recycling _ :: layers, _, _, _, h₁, h₂, hpast₁, hpast₂ =>
    congrArg₂ Recycling.mk (h₁.1.trans h₂.1.symm)
      (Layered.Emptied.unique layers h₁.2 h₂.2 hpast₁ hpast₂)

/-! ## What a trim leaves -/

namespace Allocator

variable {base : Allocator σ} {Accounts : σ → Multiset Tag → Prop} {held : Multiset Tag}

/-- What settles below is settled by the layers. -/
theorem Settles.and {Accounts' : σ → Multiset Tag → Prop} (h : base.Settles Accounts)
    (h' : base.Settles Accounts') :
    base.Settles fun s held => Accounts s held ∧ Accounts' s held where
  free hs hfree := ⟨h.free hs.1 hfree, h'.free hs.2 hfree⟩
  trim hs htrim := ⟨h.trim hs.1 htrim, h'.trim hs.2 htrim⟩

theorem Settles.underMeter (h : base.Settles Accounts) :
    base.metered.Settles fun s held => Accounts s.inner held where
  free hs hfree := h.free hs (of_metered_free hfree).1
  trim hs htrim := h.trim hs (of_metered_trim htrim).1

/-- Going back, memory changes no past in any layer. -/
theorem settles_layeredBy_samePast {Alike : σ → σ → Prop}
    (hbase : ∀ s, base.Settles fun s' _ => Alike s s') :
    (layers : List Layer) → (orders : DrainOrders σ layers) → (s : Layered σ layers) →
      (base.layeredBy layers orders).Settles fun s' _ => Layered.SamePast Alike layers s s'
  | [], _, s => hbase s
  | .metered :: layers, orders, s =>
    (settles_samePast (Metered.meter s)).and
      (settles_layeredBy_samePast hbase layers orders (Metered.inner s)).underMeter
  | .recycling capacity :: layers, orders, s =>
    (settles_layeredBy_samePast hbase layers (Prod.snd orders) (Recycling.inner s)).recyclingBy
      (Prod.fst orders) capacity

/-- After a trim nothing is parked in any layer, so the books that the layers keep are those of
    the base, and the meters count what clients hold. -/
theorem emptied_of_trim :
    (layers : List Layer) → (orders : DrainOrders σ layers) → {s s' : Layered σ layers} →
      (base.layeredBy layers orders).trim s = .done s' →
      LayeredAccounts Accounts layers s' held →
      Layered.Emptied held layers s' ∧ Accounts (Layered.base layers s') held
  | [], _, _, _, _, hs' => ⟨trivial, hs'⟩
  | .metered :: layers, orders, s, s', h, ⟨hcounts, hinner⟩ => by
    obtain ⟨hemptied, hbase⟩ := emptied_of_trim layers orders (of_metered_trim h).1 hinner
    exact ⟨⟨hcounts, hemptied⟩, hbase⟩
  | .recycling capacity :: layers, orders, s, s', h, hs' => by
    obtain ⟨state, state', -, htrim, rfl⟩ := of_drainBy h
    simp only [LayeredAccounts, RecyclingAccounts, Parked.tags_nil, zero_add] at hs'
    obtain ⟨hemptied, hbase⟩ := emptied_of_trim layers (Prod.snd orders) htrim hs'
    exact ⟨⟨rfl, hemptied⟩, hbase⟩

/-- The stack over a base that writes its calls down. -/
def watchedStack (base : Allocator σ) (layers : List Layer) (orders : DrainOrders σ layers) :
    Allocator (Layered (Watched σ) layers) :=
  base.watched.layeredBy layers (orders.comap Watched.inner layers)

theorem tracks_watchedStack (layers : List Layer) (orders : DrainOrders σ layers) :
    Tracks (Layered.map Watched.inner layers) (base.watchedStack layers orders)
      (base.layeredBy layers orders) :=
  (tracks_watched base).layeredBy layers orders

/-- The books of a stack over a watched base. -/
def StackAccounts (base : Allocator σ) (start : σ) (layers : List Layer) :
    Layered (Watched σ) layers → Multiset Tag → Prop :=
  LayeredAccounts (WatchedAccounts (base.History start)) layers

theorem keeps_watchedStack (hsized : base.Sized) {start : σ} (layers : List Layer)
    (orders : DrainOrders σ layers) :
    (base.watchedStack layers orders).Keeps (base.StackAccounts start layers) :=
  hsized.keeps_history.watched.layeredBy layers (orders.comap Watched.inner layers)

theorem stackAccounts_initial {start : σ} (layers : List Layer) :
    base.StackAccounts start layers (Layered.initial ⟨[], start⟩ layers) 0 :=
  layeredAccounts_initial ⟨rfl, .start⟩ layers

theorem map_initial {τ : Type} (f : τ → σ) (start : τ) :
    (layers : List Layer) →
      Layered.map f layers (Layered.initial start layers) = Layered.initial (f start) layers
  | [] => rfl
  | .metered :: layers => congrArg (Metered.mk .zero) (map_initial f start layers)
  | .recycling _ :: layers => congrArg (Recycling.mk []) (map_initial f start layers)

/-- At the end of a trim: nothing is parked, every meter counts what clients hold, and of what
    the base ever granted it has got back all else, each block as often as it was granted. If
    it grants no block twice, then it has got back each block once and none that a client
    holds. -/
structure Drained (held : Multiset Tag) (layers : List Layer)
    (s : Layered (Watched σ) layers) : Prop where
  emptied : Layered.Emptied held layers s
  returned : Call.granted (Layered.base layers s).calls =
    Call.freed (Layered.base layers s).calls + held
  distinct : (Call.granted (Layered.base layers s).calls).Nodup →
    (Call.freed (Layered.base layers s).calls).Nodup ∧
    Disjoint (Call.freed (Layered.base layers s).calls) held

/-- A stack with its books in order is drained by a trim, which leaves the past as it is. -/
theorem trim_watchedStack {start : σ} {layers : List Layer} {s : Layered (Watched σ) layers}
    (hreturns : base.Returns (base.History start)) (hs : base.StackAccounts start layers s held)
    (orders : DrainOrders σ layers) :
    ∃ s', (base.watchedStack layers orders).trim s = .done s' ∧ Drained held layers s' ∧
      Layered.SamePast Watched.SameGrants layers s s' := by
  obtain ⟨s', htrim, hs'⟩ :=
    (hreturns.watched.layeredBy layers (orders.comap Watched.inner layers)).trim hs
  obtain ⟨hemptied, hcalls, -⟩ := emptied_of_trim layers _ htrim hs'
  refine ⟨s', htrim, ⟨hemptied, hcalls, fun hnodup => ?_⟩, ?_⟩
  · obtain ⟨hfreed, -, hdisjoint⟩ := Multiset.nodup_add.mp (hcalls ▸ hnodup)
    exact ⟨hfreed, hdisjoint⟩
  · have hrefl := Layered.SamePast.refl Watched.SameGrants.refl layers s
    have hsettles := settles_layeredBy_samePast (@settles_sameGrants _ base) layers
      (orders.comap Watched.inner layers) s
    exact @Settles.trim _ _ _ hsettles s s' held hrefl htrim

/-- Two trims of one stack that drain in different orders leave the same. -/
theorem Drained.unique {layers : List Layer} {s s₁ s₂ : Layered (Watched σ) layers}
    (h₁ : Drained held layers s₁) (h₂ : Drained held layers s₂)
    (hpast₁ : Layered.SamePast Watched.SameGrants layers s s₁)
    (hpast₂ : Layered.SamePast Watched.SameGrants layers s s₂) :
    Layered.map (fun _ => ()) layers s₁ = Layered.map (fun _ => ()) layers s₂ ∧
    Call.freed (Layered.base layers s₁).calls = Call.freed (Layered.base layers s₂).calls := by
  refine ⟨h₁.emptied.unique layers h₂.emptied hpast₁ hpast₂, ?_⟩
  -- what was granted is the same, and so is what clients hold of it
  have hgranted : Call.granted (Layered.base layers s₁).calls =
      Call.granted (Layered.base layers s₂).calls :=
    (hpast₁.base layers).trans (hpast₂.base layers).symm
  rw [h₁.returned, h₂.returned] at hgranted
  exact add_right_cancel hgranted

end Allocator

/-! ## Runs -/

namespace Client

open Allocator

variable {base : Allocator σ} {start : σ} {layers : List Layer}

/-- After every run of a client that gives back what it holds, over any layers, a trim ends. By
    then the base has got back each block that it ever granted and that the client does not
    hold, no layer has anything parked, and every meter counts the client's blocks and bytes.
    The client holds what it held. Whatever order the trim drains the layers in, they are left
    the same and the same blocks have gone back. Nothing is assumed of the base but that its
    blocks have the size asked for and that it takes back what it granted. The run is that of
    the bare base, where calls are not written down. -/
theorem trim_drains (hsized : base.Sized) (hreturns : base.Returns (base.History start))
    {rounds : List (DrainOrders σ layers × Request)}
    (hdone : Report.trapped ∉
      replies (base.layeredBy layers) ⟨Layered.initial start layers, []⟩ rounds)
    (orders : DrainOrders σ layers) :
    let c := after (base.layeredBy layers) ⟨Layered.initial start layers, []⟩ rounds
    let watched :=
      after (base.watchedStack layers) ⟨Layered.initial ⟨[], start⟩ layers, []⟩ rounds
    watched.map (Layered.map Watched.inner layers) = c ∧
    ∃ s', watched.step (base.watchedStack layers orders) .trim = (.done, ⟨s', c.held⟩) ∧
      c.step (base.layeredBy layers orders) .trim =
        (.done, ⟨Layered.map Watched.inner layers s', c.held⟩) ∧
      Drained (Parked.tags c.held) layers s' ∧
      ∀ orders', ∃ s'',
        watched.step (base.watchedStack layers orders') .trim = (.done, ⟨s'', c.held⟩) ∧
        Layered.map (fun _ => ()) layers s'' = Layered.map (fun _ => ()) layers s' ∧
        Call.freed (Layered.base layers s'').calls = Call.freed (Layered.base layers s').calls := by
  intro c watched
  obtain ⟨hafter, hreplies⟩ := after_tracks (@tracks_watchedStack _ base layers)
    ⟨Layered.initial ⟨[], start⟩ layers, []⟩ rounds
  simp only [map, map_initial] at hafter hreplies
  have hheld : c.held = watched.held := congrArg Client.held hafter
  have hbooks : base.StackAccounts start layers watched.state (Parked.tags watched.held) :=
    after_keeps (fun orders => keeps_watchedStack hsized layers orders)
      (stackAccounts_initial layers) (hreplies ▸ hdone)
  obtain ⟨s', htrim, hdrained, hpast⟩ := trim_watchedStack hreturns hbooks orders
  rw [hheld]
  refine ⟨hafter.symm, s', ?_, ?_, hdrained, fun orders' => ?_⟩
  · rw [step_trim, htrim, afterReturn]
  · have hbare : c.step (base.layeredBy layers orders) .trim = _ :=
      (congrArg (step _ · _) hafter).trans
        (step_tracks (tracks_watchedStack layers orders) watched .trim)
    rw [hbare, step_trim, htrim]
    rfl
  · obtain ⟨s'', htrim', hdrained', hpast'⟩ := trim_watchedStack hreturns hbooks orders'
    refine ⟨s'', ?_, hdrained'.unique hdrained hpast' hpast⟩
    rw [step_trim, htrim', afterReturn]

/-- A cache over a meter over a larger cache over a meter. -/
def nestedLayers : List Layer := [.recycling 1, .metered, .recycling 2, .metered]

/-- Two of three blocks go back. The outer cache has room for the first one, and the inner cache
    takes the other. -/
def twoParked : List (DrainOrders (Base.limit 64).State nestedLayers × Request) :=
  [.alloc 8 false, .alloc 8 false, .alloc 4 false, .free 0, .free 0].map
    (Prod.mk (.oldestFirst nestedLayers))

/-- A trim sends both of them back to the base, and the third one stays. -/
theorem trim_drains_nested :
    let base := Base.limit 64
    let watched := after (base.allocator.watchedStack nestedLayers)
      ⟨Layered.initial ⟨[], base.initial⟩ nestedLayers, []⟩ twoParked
    ∃ s',
      watched.step (base.allocator.watchedStack nestedLayers (.oldestFirst nestedLayers)) .trim =
        (.done, ⟨s', [⟨2, List.replicate 4 0⟩]⟩) ∧
      Drained {⟨2, 4⟩} nestedLayers s' ∧
      Call.freed (Layered.base nestedLayers s').calls = {⟨0, 8⟩, ⟨1, 8⟩} := by
  intro base watched
  have hdone : Report.trapped ∉ replies (base.allocator.layeredBy nestedLayers)
      ⟨Layered.initial base.initial nestedLayers, []⟩ twoParked := by decide +kernel
  have hheld : (after (base.allocator.layeredBy nestedLayers)
      ⟨Layered.initial base.initial nestedLayers, []⟩ twoParked).held =
        [⟨2, List.replicate 4 0⟩] := by decide +kernel
  obtain ⟨-, s', hstep, -, hdrained, -⟩ :=
    trim_drains base.fresh.sized base.returns_history hdone (.oldestFirst nestedLayers)
  rw [hheld] at hstep hdrained
  refine ⟨s', hstep, hdrained, ?_⟩
  have hfreed := congrArg (fun ended => Call.freed (Layered.base nestedLayers ended.2.state).calls)
    hstep
  exact hfreed.symm.trans (by decide +kernel)

end Client

end DeviceMemory
