-- SUMMARY: All contexts of a registry use the allocator of its first request, and every context has an allocator for device memory.
import DeviceMemory.Proofs.Session.Changes
import DeviceMemory.Proofs.Session.History

/-!
# Registries and contexts

A registry that has an allocator for the host keeps handing it out, with the
capacity of the first request. A property of registries and one of contexts last
(`Lasting`) if they survive every change of a store and every request to a
registry; such properties are carried along runs of commands (`Lasting.step`). Two
are used: registries and contexts name allocators for device memory only
(`Equipped`), and a given registry has a given allocator (`Serves`).
-/

namespace DeviceMemory

open DeviceMemory.Action

variable {s s' : Store} {written : Set AllocationId} {a : AllocatorId} {capacity : Nat}

/-! ## Allocators for device memory -/

/-- The allocator is one for device memory, parking up to `capacity` blocks of each size. -/
def Store.HasDevice (a : AllocatorId) (capacity : Nat) (s : Store) : Prop :=
  ∃ state, s.allocators[a]? = some ⟨.host, [.recycling capacity, .metered], state⟩

theorem Store.Leads.hasDevice (h : s.Leads written s') (ha : s.HasDevice a capacity) :
    s'.HasDevice a capacity := by
  obtain ⟨state, ha⟩ := ha
  exact h.getElem?_allocators ha

/-! ## Requests -/

/-- What a request to a registry gives: the allocator that it has, or a new one. -/
theorem Registry.of_exec_get {r r' : Registry} {device : Device}
    (h : (r.get device capacity).exec s = (.ok (a, r'), s')) :
    (r.allocators.lookup device = some a ∧ r' = r ∧ s' = s) ∨
      (r.allocators.lookup device = none ∧ device = .cpu ∧ r' = ⟨r.allocators ++ [(.cpu, a)]⟩ ∧
        s'.HasDevice a capacity) := by
  unfold Registry.get at h
  cases hlookup : r.allocators.lookup device with
  | some id =>
    rw [hlookup] at h
    cases h
    exact .inl ⟨rfl, rfl, rfl⟩
  | none =>
    rw [hlookup] at h
    cases device with
    | cuda index => cases h
    | cpu =>
      cases h
      exact .inr ⟨rfl, rfl, rfl, _, List.getElem?_concat_length⟩

/-- The context is one of the allocator that its registry gave. -/
theorem Context.of_exec_setUp {r r' : Registry} {config : Config} {c : Context}
    (h : (Context.setUp r config).exec s = (.ok (c, r'), s')) :
    ∃ s₁, (r.get config.device config.cacheCapacity).exec s = (.ok (c.allocator, r'), s₁) ∧
      c.device = config.device ∧ s₁.Leads ∅ s' := by
  obtain ⟨-, hrest⟩ := of_exec_ensure_bind h
  obtain ⟨⟨a, r''⟩, s₂, hget, hrest⟩ := exists_of_exec_bind hrest
  cases hrest
  exact ⟨s₂, hget, rfl, .aside ..⟩

/-! ## Equipment -/

/-- The registry has allocators for the memory of the host only. -/
def Registry.Equipped (r : Registry) (s : Store) : Prop :=
  ∀ device a, r.allocators.lookup device = some a →
    device = .cpu ∧ ∃ capacity, s.HasDevice a capacity

/-- The context is one on the host, with an allocator for its memory. -/
def Context.Equipped (c : Context) (s : Store) : Prop :=
  c.device = .cpu ∧ ∃ capacity, s.HasDevice c.allocator capacity

theorem Registry.equipped_empty : Registry.empty.Equipped s := by
  intro device a hlookup
  cases hlookup

theorem Registry.Equipped.leads {r : Registry} (hr : r.Equipped s) (h : s.Leads written s') :
    r.Equipped s' := by
  intro device a hlookup
  obtain ⟨hdevice, capacity, ha⟩ := hr device a hlookup
  exact ⟨hdevice, capacity, h.hasDevice ha⟩

/-- A request gives the allocator of the host, which has the capacity of the first request. -/
theorem Registry.Equipped.of_exec_get {r r' : Registry} {device : Device} (hr : r.Equipped s)
    (h : (r.get device capacity).exec s = (.ok (a, r'), s')) :
    r'.Equipped s' ∧ device = .cpu ∧ r'.allocators.lookup .cpu = some a ∧
      ∃ k, s'.HasDevice a k ∧ (r.allocators.lookup .cpu = none → k = capacity) := by
  have hleads : s.Leads ∅ s' := by
    have hget : Action.Leads ∅ (r.get device capacity) := r.leads_get device capacity
    have hstore := hget s
    rwa [h] at hstore
  rcases Registry.of_exec_get h with ⟨hlookup, rfl, rfl⟩ | ⟨hnone, rfl, rfl, ha⟩
  · obtain ⟨rfl, k, ha⟩ := hr device a hlookup
    exact ⟨hr, rfl, hlookup, k, ha, fun hnone => by cases hnone.symm.trans hlookup⟩
  · refine ⟨fun device a' hlookup => ?_, rfl, ?_, capacity, ha, fun _ => rfl⟩
    · rw [List.lookup_append, Option.or_eq_some_iff] at hlookup
      rcases hlookup with hold | ⟨-, hnew⟩
      · exact hr.leads hleads device a' hold
      · cases device with
        | cpu =>
          cases hnew
          exact ⟨rfl, capacity, ha⟩
        | cuda index => cases hnew
    · rw [List.lookup_append, hnone]
      rfl

namespace Session

open Turn

/-! ## Lasting properties -/

/-- A property of named registries, `none` naming the one of the process, and a property of
    contexts that last. -/
structure Lasting (R : Option String → Registry → Store → Prop) (C : Context → Store → Prop) :
    Prop where
  registry : ∀ {n r written} {s s' : Store}, s.Leads written s' → R n r s → R n r s'
  context : ∀ {c written} {s s' : Store}, s.Leads written s' → C c s → C c s'
  get : ∀ {n r r' device capacity a s s'},
    (r.get device capacity).exec s = (.ok (a, r'), s') → R n r s → R n r' s'
  setUp : ∀ {n r config c r' s s'},
    (Context.setUp r config).exec s = (.ok (c, r'), s') → R n r s → C c s'
  tornDown : ∀ {c s}, C c s → C { c with tornDown := true } s

/-- The registry with a name, or that of the process. -/
def registryOf (s : Session) : Option String → Option Registry
  | some name => s.registries.lookup name
  | none => some s.shared

/-- The session with another registry under a name, or as that of the process. -/
def withRegistry (n : Option String) (r : Registry) (s : Session) : Session :=
  match n with
  | some name => { s with registries := s.registries.put name r }
  | none => { s with shared := r }

theorem registryOf_withRegistry (n m : Option String) (r : Registry) (s : Session) :
    (s.withRegistry n r).registryOf m = if m = n then some r else s.registryOf m := by
  cases n with
  | none => cases m <;> rfl
  | some name =>
    cases m with
    | none => rfl
    | some other =>
      by_cases hother : other = name
      · rw [if_pos (congrArg some hother), hother]
        exact Names.lookup_put ..
      · rw [if_neg fun heq => hother (Option.some.inj heq)]
        exact Names.lookup_put_of_ne hother ..

/-- All registries and contexts of the session have the properties. -/
structure Upheld (R : Option String → Registry → Store → Prop) (C : Context → Store → Prop)
    (s : Session) : Prop where
  registries : ∀ n r, s.registryOf n = some r → R n r s.store
  contexts : ∀ id c, s.contexts.lookup id = some c → C c s.store

variable {R : Option String → Registry → Store → Prop} {C : Context → Store → Prop}
  {s s' : Session} {α : Type} {pre : Session → Prop}

theorem Lasting.leads (h : Lasting R C) {written : Set AllocationId}
    (hleads : s.store.Leads written s'.store) (hdevices : s'.devices = s.devices)
    (hs : s.Upheld R C) : s'.Upheld R C := by
  obtain ⟨hregistries, hshared, hcontexts⟩ :
      s'.registries = s.registries ∧ s'.shared = s.shared ∧ s'.contexts = s.contexts := by
    simpa [devices] using hdevices
  constructor
  · intro n r hr
    refine h.registry hleads (hs.registries n r ?_)
    cases n with
    | none => rwa [registryOf, ← hshared]
    | some name => rwa [registryOf, ← hregistries]
  · intro id c hc
    exact h.context hleads (hs.contexts id c (hcontexts ▸ hc))

namespace Upheld

variable {r : Registry} {c : Context}

theorem withRegistry (hs : s.Upheld R C) {n : Option String} (hr : R n r s.store) :
    (s.withRegistry n r).Upheld R C := by
  have hsame : (s.withRegistry n r).store = s.store ∧ (s.withRegistry n r).contexts = s.contexts := by
    cases n <;> exact ⟨rfl, rfl⟩
  constructor
  · intro m r' hr'
    rw [registryOf_withRegistry] at hr'
    rw [hsame.1]
    split at hr'
    next heq =>
      cases hr'
      exact heq ▸ hr
    next => exact hs.registries m r' hr'
  · rw [hsame.1, hsame.2]
    exact hs.contexts

theorem putContext (hs : s.Upheld R C) (id : String) (hc : C c s.store) :
    { s with contexts := s.contexts.put id c }.Upheld R C where
  registries := hs.registries
  contexts := by
    intro other c' hc'
    by_cases hother : other = id
    · subst hother
      cases (Names.lookup_put ..).symm.trans hc'
      exact hc
    · exact hs.contexts other c' ((Names.lookup_put_of_ne hother ..).symm.trans hc')

theorem eraseContext (hs : s.Upheld R C) (id : String) :
    { s with contexts := s.contexts.erase id }.Upheld R C where
  registries := hs.registries
  contexts := by
    intro other c hc
    by_cases hother : other = id
    · subst hother
      cases (Entries.lookup_filter ..).symm.trans hc
    · exact hs.contexts other c ((Entries.lookup_filter_of_ne hother _).symm.trans hc)

end Upheld

/-! ## Commands -/

/-- The store goes on under the same names. -/
theorem Lasting.withStore (h : Lasting R C) (hs : s.Upheld R C) {store : Store}
    (hleads : s.store.Leads ∅ store) : { s with store := store }.Upheld R C :=
  h.leads hleads rfl hs

theorem Lasting.of_get (h : Lasting R C) (hs : s.Upheld R C) {n : Option String}
    {r r' : Registry} {device : Device} {capacity : Nat} {a : AllocatorId} {store : Store}
    (hr : s.registryOf n = some r)
    (hget : (r.get device capacity).exec s.store = (.ok (a, r'), store)) :
    { s with store := store }.Upheld R C ∧ R n r' store := by
  refine ⟨h.withStore hs ?_, h.get hget (hs.registries n r hr)⟩
  have hleads : Action.Leads ∅ (r.get device capacity) := r.leads_get device capacity
  have hstore := hleads s.store
  rwa [hget] at hstore

theorem Lasting.of_setUp (h : Lasting R C) (hs : s.Upheld R C) {n : Option String}
    {r r' : Registry} {config : Config} {c : Context} {store : Store}
    (hr : s.registryOf n = some r)
    (hsetUp : (Context.setUp r config).exec s.store = (.ok (c, r'), store)) :
    { s with store := store }.Upheld R C ∧ R n r' store ∧ C c store := by
  obtain ⟨s₁, hget, -, hleads⟩ := Context.of_exec_setUp hsetUp
  obtain ⟨hs₁, hr'⟩ := h.of_get hs hr hget
  exact ⟨h.withStore hs₁ hleads, h.registry hleads hr', h.setUp hsetUp (hs.registries n r hr)⟩

/-- The session in which a context was set up and got its name, and the one that had the name
    was dropped. -/
theorem of_run_setUp {id : String} {settings : Settings} {n : Option String} {answer : Answer}
    (hrun : StateT.run (ExceptT.run (ContextCommand.setUp id settings n).run) s =
      (.ok answer, s')) :
    ∃ config r c r' store, Config.ofSettings settings = .ok config ∧ s.registryOf n = some r ∧
      (Context.setUp r config).exec s.store = (.ok (c, r'), store) ∧
      s' =
        { s.withRegistry n r' with
          store := dropOld Context.drop (s.contexts.lookup id) store
          contexts := s.contexts.put id c } := by
  obtain ⟨config, hsettings, hrun⟩ := of_run_ofExcept_bind hrun
  cases n with
  | some name =>
    obtain ⟨r, hr, hrun⟩ := of_run_find_bind hrun
    obtain ⟨⟨c, r'⟩, store, hsetUp, hrun⟩ := of_run_act_bind hrun
    cases hrun
    exact ⟨config, r, c, r', store, hsettings, hr, hsetUp, rfl⟩
  | none =>
    obtain ⟨now, _, hnow, hrun⟩ := exists_of_run_bind hrun
    cases hnow
    obtain ⟨⟨c, r'⟩, store, hsetUp, hrun⟩ := of_run_act_bind hrun
    cases hrun
    exact ⟨config, s.shared, c, r', store, hsettings, rfl, hsetUp, rfl⟩

theorem Lasting.of_run (h : Lasting R C) {c : ContextCommand} {answer : Answer}
    (hmade : ∀ id, c = .makeRegistry id → ∀ s, R (some id) .empty s) (hs : s.Upheld R C)
    (hrun : StateT.run (ExceptT.run c.run) s = (.ok answer, s')) : s'.Upheld R C := by
  cases c with
  | makeRegistry id =>
    cases hrun
    exact hs.withRegistry (n := some id) (hmade id rfl _)
  | allocator id registry device capacity =>
    obtain ⟨r, hr, hrun⟩ := of_run_find_bind hrun
    obtain ⟨device, -, hrun⟩ := of_run_ofExcept_bind hrun
    obtain ⟨⟨a, r'⟩, store, hget, hrun⟩ := of_run_act_bind hrun
    cases hrun
    obtain ⟨hs₁, hr'⟩ := h.of_get (n := some registry) hs hr hget
    have hs₂ := hs₁.withRegistry hr'
    exact ⟨hs₂.registries, hs₂.contexts⟩
  | sharedAllocator device =>
    obtain ⟨device, -, hrun⟩ := of_run_ofExcept_bind hrun
    obtain ⟨now, _, hnow, hrun⟩ := exists_of_run_bind hrun
    cases hnow
    obtain ⟨⟨a, r⟩, store, hget, hrun⟩ := of_run_act_bind hrun
    obtain ⟨⟨host, r'⟩, store', hhost, hrun⟩ := of_run_act_bind hrun
    cases hrun
    obtain ⟨hs₁, hr⟩ := h.of_get (n := none) hs rfl hget
    obtain ⟨hs₂, hr'⟩ := h.of_get (n := none) (hs₁.withRegistry hr) rfl hhost
    exact hs₂.withRegistry hr'
  | setUp id settings n =>
    obtain ⟨config, r, c, r', store, -, hr, hsetUp, rfl⟩ := of_run_setUp hrun
    obtain ⟨hs₁, hr', hc⟩ := h.of_setUp hs hr hsetUp
    have hleads : store.Leads ∅ (dropOld Context.drop (s.contexts.lookup id) store) :=
      leads_dropOld (fun c s => .dropContext s c) _ _
    have hs₂ := ((h.withStore hs₁ hleads).putContext id (h.context hleads hc)).withRegistry
      (h.registry hleads hr')
    cases n <;> exact hs₂
  | describe ctx =>
    obtain ⟨c, -, hrun⟩ := of_run_find_bind hrun
    cases hrun
    exact hs
  | shareAllocator id ctx =>
    obtain ⟨c, -, hrun⟩ := of_run_find_bind hrun
    cases hrun
    exact ⟨hs.registries, hs.contexts⟩
  | sharePool id ctx =>
    obtain ⟨c, -, hrun⟩ := of_run_find_bind hrun
    cases hrun
    have hleads : s.store.Leads ∅
        (dropOld Store.dropPoolHandle (s.pools.lookup id) (s.store.addPoolHandle c.pool)) :=
      (Store.Leads.aside ..).trans (leads_dropOld (fun p s => .dropPoolHandle s p) _ _)
    exact h.leads hleads rfl hs
  | tearDown ctx =>
    obtain ⟨c, hc, hrun⟩ := of_run_find_bind hrun
    cases hrun
    have hleads : s.store.Leads ∅ (c.tearDown s.store).2 := .tearDown ..
    refine (h.withStore hs hleads).putContext ctx ?_
    exact h.tornDown (h.context hleads (hs.contexts ctx c hc))
  | drop id =>
    cases hrun
    have hleads : s.store.Leads ∅ (dropOld Context.drop (s.contexts.lookup id) s.store) :=
      leads_dropOld (fun c s => .dropContext s c) _ _
    exact (h.withStore hs hleads).eraseContext id

/-- Commands keep lasting properties, whether they end well or fail. -/
theorem Lasting.step (h : Lasting R C) (hs : s.Reachable) {c : Command}
    (hmade : ∀ id, c = .context (.makeRegistry id) → ∀ s, R (some id) .empty s)
    (hc : c.isDirect = false) (htrap : (s.step c).1.isTrap = false) (hupheld : s.Upheld R C) :
    (s.step c).2.Upheld R C := by
  have hleads : s.store.Leads (c.overwrites s) (s.step c).2.store := step_leads s c
  cases hout : (s.step c).1.outcome with
  | error fault =>
    cases fault with
    | trap => simp [Reply.isTrap, hout] at htrap
    | error cause =>
      obtain ⟨store, -, hnext⟩ := hs.sound.step_failed hs.slotsFormed hc hout
      exact h.leads hleads (by rw [hnext]; rfl) hupheld
  | ok answer =>
    cases c with
    | context c =>
      have hquiet : s.quiet.Upheld R C := h.withStore hupheld (.aside ..)
      exact h.of_run (fun id hid => hmade id (congrArg _ hid)) hquiet (run_of_step hout).1
    | allocator c => exact h.leads hleads (devices_step rfl s) hupheld
    | buffer c => exact h.leads hleads (devices_step rfl s) hupheld
    | pool c => exact h.leads hleads (devices_step rfl s) hupheld
    | array c => exact h.leads hleads (devices_step rfl s) hupheld

theorem Lasting.reachable (h : Lasting R C) (hempty : ∀ n s, R n .empty s) (hs : s.Reachable) :
    s.Upheld R C := by
  induction hs with
  | empty =>
    refine ⟨fun n r hr => ?_, fun _ _ hc => by cases hc⟩
    cases n with
    | none =>
      cases hr
      exact hempty none _
    | some name => cases hr
  | step c hs hc htrap ih => exact h.step hs (fun id _ => hempty (some id)) hc htrap ih

/-! ## Registries and contexts have allocators for device memory -/

theorem lasting_equipped : Lasting (fun _ => Registry.Equipped) Context.Equipped where
  registry hleads hr := hr.leads hleads
  context := by
    rintro c written s s' hleads ⟨hdevice, capacity, hc⟩
    exact ⟨hdevice, capacity, hleads.hasDevice hc⟩
  get hget hr := (hr.of_exec_get hget).1
  setUp := by
    intro n r config c r' s s' hsetUp hr
    obtain ⟨s₁, hget, hdevice, hleads⟩ := Context.of_exec_setUp hsetUp
    obtain ⟨-, hcpu, -, capacity, hc, -⟩ := hr.of_exec_get hget
    exact ⟨hdevice.trans hcpu, capacity, hleads.hasDevice hc⟩
  tornDown hc := hc

theorem Reachable.equipped (hs : s.Reachable) : s.Upheld (fun _ => Registry.Equipped)
    Context.Equipped :=
  lasting_equipped.reachable (fun _ _ => Registry.equipped_empty) hs

/-! ## Contexts of one registry share an allocator -/

/-- The registry hands out this allocator. -/
def Serves (n : Option String) (a : AllocatorId) (s : Session) : Prop :=
  ∀ r, s.registryOf n = some r → r.allocators.lookup .cpu = some a

/-- Whether the command makes the registry anew. -/
def Command.replaces (n : Option String) : Command → Bool
  | .context (.makeRegistry id) => n = some id
  | _ => false

theorem lasting_serves (n : Option String) (a : AllocatorId) :
    Lasting (fun m r _ => m = n → r.allocators.lookup .cpu = some a) fun _ _ => True where
  registry _ hr := hr
  context _ hc := hc
  get := by
    intro m r r' device capacity a' s s' hget hr heq
    rcases Registry.of_exec_get hget with ⟨-, rfl, -⟩ | ⟨hnone, rfl, -⟩
    · exact hr heq
    · cases hnone.symm.trans (hr heq)
  setUp _ _ := trivial
  tornDown hc := hc

theorem Serves.after {n : Option String} {a : AllocatorId} {commands : List Command}
    (h : s.Serves n a) (hs : s.Reachable) (hclean : s.isClean commands = true)
    (hkept : ∀ c ∈ commands, c.replaces n = false) : (s.after commands).Serves n a := by
  induction commands generalizing s with
  | nil => exact h
  | cons c commands ih =>
    obtain ⟨hc, htrap, hclean⟩ := isClean_cons.mp hclean
    refine ih (s := (s.step c).2) ?_ (hs.step c hc htrap) hclean fun d hd =>
      hkept d (List.mem_cons_of_mem c hd)
    have hupheld := (lasting_serves n a).step hs (c := c) ?_ hc htrap
      ⟨fun m r hr heq => h r (heq ▸ hr), fun _ _ _ => trivial⟩
    · exact fun r hr => hupheld.registries n r hr rfl
    · rintro id rfl s heq
      have hreplaces := hkept _ List.mem_cons_self
      simp [Command.replaces, heq] at hreplaces

/-- The command sets the context up from the registry. -/
def Command.SetsUp (s : Session) (x : Command) (n : Option String) (config : Config)
    (c : Context) : Prop :=
  ∃ id settings answer, x = .context (.setUp id settings n) ∧
    Config.ofSettings settings = .ok config ∧ (s.step x).1.outcome = .ok answer ∧
    (s.step x).2.contexts.lookup id = some c

/-- What a context gets is what its registry hands out: what that had, or a new allocator. -/
theorem Command.SetsUp.serves {x : Command} {n : Option String} {config : Config} {c : Context}
    (h : x.SetsUp s n config c) (hs : s.Reachable) :
    (s.step x).2.Serves n c.allocator ∧
      ∃ r, s.registryOf n = some r ∧ (∀ a, r.allocators.lookup .cpu = some a → c.allocator = a) ∧
        (r.allocators.lookup .cpu = none →
          (s.step x).2.store.HasDevice c.allocator config.cacheCapacity) := by
  obtain ⟨id, settings, answer, rfl, hsettings, hout, hc⟩ := h
  obtain ⟨config', r, c', r', store, hconfig, hr, hsetUp, hstep⟩ :=
    of_run_setUp (run_of_step hout).1
  cases hsettings.symm.trans hconfig
  have hname : c' = c := by
    rw [hstep] at hc
    exact Option.some.inj ((Names.lookup_put ..).symm.trans hc)
  subst hname
  obtain ⟨s₁, hget, -, hleads⟩ := Context.of_exec_setUp hsetUp
  have hquiet : s.store.Leads ∅ s.quiet.store := .aside ..
  have hequipped : r.Equipped s.quiet.store :=
    (hs.equipped.registries n r (by cases n <;> exact hr)).leads hquiet
  obtain ⟨-, hcpu, hserves, k, ha, hk⟩ := hequipped.of_exec_get hget
  refine ⟨fun r'' hr'' => ?_, r, by cases n <;> exact hr, fun a ha' => ?_, fun hnone => ?_⟩
  · have hsame : (s.quiet.withRegistry n r').registryOf n = some r'' := by
      rw [hstep] at hr''
      cases n <;> exact hr''
    rw [registryOf_withRegistry, if_pos rfl] at hsame
    cases hsame
    exact hserves
  · rcases Registry.of_exec_get hget with ⟨hlookup, -⟩ | ⟨hnone, -⟩
    · rw [hcpu] at hlookup
      exact Option.some.inj (hlookup.symm.trans ha')
    · rw [hcpu] at hnone
      cases hnone.symm.trans ha'
  · rw [hstep]
    have hdrop : store.Leads ∅ (dropOld Context.drop (s.quiet.contexts.lookup id) store) :=
      leads_dropOld (fun c s => .dropContext s c) _ _
    exact hk hnone ▸ hdrop.hasDevice (hleads.hasDevice ha)

/-- After these commands the context is one that was set up from the registry after `before`,
    and the registry was not made anew since. -/
def From (commands before : List Command) (n : Option String) (config : Config) (c : Context) :
    Prop :=
  ∃ x since, commands = before ++ x :: since ∧ x.SetsUp (empty.after before) n config c ∧
    ∀ d ∈ since, d.replaces n = false

theorem hasDevice_after {a : AllocatorId} {capacity : Nat} (h : s.store.HasDevice a capacity)
    (commands : List Command) : (s.after commands).store.HasDevice a capacity := by
  induction commands generalizing s with
  | nil => exact h
  | cons c commands ih => exact ih ((step_leads s c).hasDevice h)

section From

variable {commands before before' : List Command} {n : Option String} {config config' : Config}
  {c c' : Context}

/-- The later of two set-ups gets what the earlier one got. -/
theorem From.allocator_eq_of_prefix (hclean : empty.isClean commands = true)
    (h : From commands before n config c) (h' : From commands before' n config' c')
    (hearlier : before <+: before') : c'.allocator = c.allocator := by
  obtain ⟨x, since, rfl, hsetUp, hkept⟩ := h
  obtain ⟨x', since', hrun, hsetUp', -⟩ := h'
  obtain ⟨between, rfl⟩ := hearlier
  rw [List.append_assoc, List.append_cancel_left_eq] at hrun
  cases between with
  | nil =>
    -- the two are one
    cases hrun
    rw [List.append_nil] at hsetUp'
    obtain ⟨id, settings, answer, rfl, -, -, hc⟩ := hsetUp
    obtain ⟨id', settings', answer', hsame, -, -, hc'⟩ := hsetUp'
    cases hsame
    cases hc.symm.trans hc'
    rfl
  | cons y between =>
    cases hrun
    obtain ⟨hbefore, hclean⟩ := isClean_append.mp hclean
    rw [← List.singleton_append, isClean_append] at hclean
    obtain ⟨hsetUpClean, hclean⟩ := hclean
    obtain ⟨hbetween, -⟩ := isClean_append.mp hclean
    have hs : (empty.after before).Reachable := Reachable.empty.after hbefore
    have hs₁ := hs.after hsetUpClean
    obtain ⟨hserves, -⟩ := hsetUp.serves hs
    have hlast : (((empty.after before).step x).2.after between).Serves n c.allocator :=
      Serves.after hserves hs₁ hbetween fun d hd => hkept d (List.mem_append_left _ hd)
    have hrun : (((empty.after before).step x).2.after between) =
        empty.after (before ++ x :: between) :=
      (after_append empty before (x :: between)).symm
    have hs' : (empty.after (before ++ x :: between)).Reachable := hrun ▸ hs₁.after hbetween
    rw [hrun] at hlast
    obtain ⟨-, r, hr, hsame, -⟩ := hsetUp'.serves hs'
    exact hsame c.allocator (hlast r hr)

/-- All contexts of a registry use one allocator. -/
theorem From.allocator_eq (hclean : empty.isClean commands = true)
    (h : From commands before n config c) (h' : From commands before' n config' c') :
    c'.allocator = c.allocator := by
  have ⟨_, _, hrun, _⟩ := h
  have ⟨_, _, hrun', _⟩ := h'
  rcases List.prefix_or_prefix_of_prefix ⟨_, hrun.symm⟩ ⟨_, hrun'.symm⟩ with hle | hge
  · exact From.allocator_eq_of_prefix hclean h h' hle
  · exact (From.allocator_eq_of_prefix hclean h' h hge).symm

/-- Where the registry had no allocator yet, the context determined its capacity. -/
theorem From.hasDevice (hclean : empty.isClean commands = true)
    (h : From commands before n config c)
    (hfirst : ∀ r, (empty.after before).registryOf n = some r → r.allocators = []) :
    (empty.after commands).store.HasDevice c.allocator config.cacheCapacity := by
  obtain ⟨x, since, rfl, hsetUp, -⟩ := h
  obtain ⟨hbefore, -⟩ := isClean_append.mp hclean
  obtain ⟨-, r, hr, -, hcapacity⟩ := hsetUp.serves (Reachable.empty.after hbefore)
  have hnone : r.allocators.lookup .cpu = none := by
    rw [hfirst r hr]
    rfl
  rw [after_append]
  exact hasDevice_after (hcapacity hnone) since

end From

end Session

end DeviceMemory
