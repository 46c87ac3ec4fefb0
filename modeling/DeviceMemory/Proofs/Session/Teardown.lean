-- SUMMARY: Tearing a context down releases what no one else reaches and reports exactly the rest.
import DeviceMemory.Proofs.Context.Release
import DeviceMemory.Proofs.Session.Bookkeeping
import DeviceMemory.Proofs.Session.Registries

/-!
# Teardown

What outlives a context is what handles of users and retained slots of other pools
still reach. A teardown empties the pool of the context, returns all parked blocks
of its allocator, and reports exactly what outlives it; none of that changes. The
number is right for every user of the allocator because the books are right in
every session that commands reach.
-/

namespace DeviceMemory

/-! ## Reports -/

namespace Context

/-- What a teardown tells of the memory that is left. -/
def leftover (c : Context) (s : Store) : List Event :=
  if 0 < (s.usage c.allocator).outstandingBuffers then
    [.outstandingAtTeardown c.device.canonical (s.usage c.allocator).outstandingBuffers
      (s.usage c.allocator).outstandingBytes]
  else []

/-- A teardown is a release and a report. -/
theorem tearDown_eq (c : Context) (s : Store) :
    c.tearDown s =
      (((c.release s).usage c.allocator, { c with tornDown := true }),
        { c.release s with journal := (c.release s).journal ++ c.leftover (c.release s) }) := by
  simp only [tearDown, leftover]
  split
  next => rfl
  next => rw [List.append_nil]

end Context

namespace Names

variable {α : Type}

@[simp] theorem erase_put (name : String) (a : α) (names : Names α) :
    (names.put name a).erase name = names.erase name := by
  simp [put, erase]

@[simp] theorem put_put (name : String) (a b : α) (names : Names α) :
    (names.put name a).put name b = names.put name b := by
  rw [put, erase_put, ← put]

end Names

namespace Session

variable {s : Session} {ctx : String} {c : Context} {id : AllocationId}

/-! ## Steps -/

/-- The store after the release of a context. -/
def released (c : Context) (s : Session) : Store := c.release s.quiet.store

/-- The session after a teardown. -/
def tornDown (ctx : String) (c : Context) (s : Session) : Session :=
  { s with
    store := { s.released c with journal := c.leftover (s.released c), trapped := false }
    contexts := s.contexts.put ctx { c with tornDown := true } }

theorem journal_released (c : Context) (s : Session) : (s.released c).journal = [] :=
  (Store.Released.releaseContext s.quiet.store c).journal

theorem Sound.trapped_released (hs : s.Sound) (c : Context) : (s.released c).trapped = false :=
  (hs.quiet.balanced.releaseContext c).untrapped

theorem Sound.tearDown_store (hs : s.Sound) (c : Context) :
    (c.tearDown s.quiet.store).2 =
      { s.released c with journal := c.leftover (s.released c), trapped := false } := by
  rw [Context.tearDown_eq, ← hs.trapped_released c, ← released, journal_released, List.nil_append]

theorem step_tearDown (hs : s.Sound) (hc : s.contexts.lookup ctx = some c) :
    s.step (.context (.tearDown ctx)) =
      (⟨.ok (.usage ((s.released c).usage c.allocator)), c.leftover (s.released c)⟩,
        s.tornDown ctx c) := by
  have hfind : StateT.run (ExceptT.run (Turn.find contexts ctx)) s.quiet = (.ok c, s.quiet) :=
    Turn.run_find hc
  have hrun : StateT.run (ExceptT.run (Command.context (.tearDown ctx)).run) s.quiet =
      (.ok (.usage (c.tearDown s.quiet.store).1.1),
        { s.quiet with
          store := (c.tearDown s.quiet.store).2
          contexts := s.contexts.put ctx (c.tearDown s.quiet.store).1.2 }) :=
    (Turn.run_bind_of_ok hfind).trans rfl
  rw [step_of_run hrun, hs.tearDown_store, Context.tearDown_eq]
  rfl

theorem lookup_tornDown (ctx : String) (c : Context) (s : Session) :
    (s.tornDown ctx c).contexts.lookup ctx = some { c with tornDown := true } :=
  Names.lookup_put ..

theorem Sound.tornDown (hs : s.Sound) (hc : s.contexts.lookup ctx = some c) :
    (s.tornDown ctx c).Sound := by
  have hstep := hs.step (c := .context (.tearDown ctx)) rfl (by rw [step_tearDown hs hc]; rfl)
  rwa [step_tearDown hs hc] at hstep

/-- A second teardown reports the same and changes nothing. -/
theorem step_tearDown_tornDown (hs : s.Sound) (hc : s.contexts.lookup ctx = some c) :
    (s.tornDown ctx c).step (.context (.tearDown ctx)) = s.step (.context (.tearDown ctx)) := by
  have hsame : (s.tornDown ctx c).tornDown ctx { c with tornDown := true } = s.tornDown ctx c := by
    rw [Session.tornDown, Session.tornDown, Names.put_put]
    rfl
  rw [step_tearDown (hs.tornDown hc) (lookup_tornDown ctx c s), hsame, step_tearDown hs hc]
  rfl

theorem step_drop (hs : s.Sound) (hc : s.contexts.lookup ctx = some c) :
    s.step (.context (.drop ctx)) =
      (⟨.ok (.flag true), (c.drop s.quiet.store).journal⟩,
        { s with store := c.drop s.quiet.store, contexts := s.contexts.erase ctx }) := by
  have hrun : StateT.run (ExceptT.run (Command.context (.drop ctx)).run) s.quiet =
      (.ok (.flag (s.contexts.lookup ctx).isSome),
        { s.quiet with
          store := dropOld Context.drop (s.contexts.lookup ctx) s.quiet.store
          contexts := s.contexts.erase ctx }) := rfl
  have hbalanced : s.quiet.store.Balanced (s.besideContext ctx + c.holdings) := by
    have hquiet := hs.quiet.balanced
    rwa [holdings_context hs.quiet.distinct hc] at hquiet
  have htrapped : (c.drop s.quiet.store).trapped = false := hbalanced.dropContext.untrapped
  rw [step_of_run hrun, hc]
  simp only [dropOld, htrapped]
  rfl

/-- Dropping a context that was torn down reports nothing. -/
theorem step_drop_tornDown (hs : s.Sound) (hc : s.contexts.lookup ctx = some c) :
    ((s.tornDown ctx c).step (.context (.drop ctx))).1 = ⟨.ok (.flag true), []⟩ := by
  rw [step_drop (hs.tornDown hc) (lookup_tornDown ctx c s)]
  have hjournal := (Store.Released.dropPoolHandle (s.tornDown ctx c).quiet.store c.pool).journal
  exact congrArg (Reply.mk _) hjournal

/-- Dropping a context that was not torn down does that first. -/
theorem step_drop_of_not_tornDown (hs : s.Sound) (hc : s.contexts.lookup ctx = some c)
    (htorn : c.tornDown = false) :
    (s.step (.context (.drop ctx))).1 = ⟨.ok (.flag true), c.leftover (s.released c)⟩ ∧
      (s.step (.context (.drop ctx))).2.quiet =
        ((s.tornDown ctx c).step (.context (.drop ctx))).2.quiet := by
  have hslots : (s.tornDown ctx c).quiet.store.slots c.pool = [] :=
    Store.slots_releaseContext htorn s.quiet.store
  have hdrop : c.drop s.quiet.store =
      { (s.tornDown ctx c).quiet.store.dropPoolHandle c.pool with
        journal := c.leftover (s.released c) } := by
    have hsame := Store.dropPoolHandle_of_slots_eq_nil hslots (c.leftover (s.released c))
    simp only [Context.drop, htorn, hs.tearDown_store]
    exact hsame
  rw [step_drop hs hc, step_drop (hs.tornDown hc) (lookup_tornDown ctx c s), hdrop]
  refine ⟨rfl, ?_⟩
  simp only [quiet, Session.tornDown, Names.erase_put]
  rfl

/-! ## What outlives a context -/

/-- The allocations in retained slots of live pools other than this one. -/
def inPoolsBeside (p : PoolId) (s : Session) : List AllocationId :=
  (s.livePools.filter (· ≠ p)).flatMap fun q => (s.store.slots q).filterMap (·.2.handle?)

/-- Some handle reaches the allocation, slots of the pool of this context apart. -/
def Outlives (s : Session) (c : Context) (id : AllocationId) : Prop :=
  id ∈ s.inHands ∨ id ∈ s.inPoolsBeside c.pool

instance (s : Session) (c : Context) (id : AllocationId) : Decidable (s.Outlives c id) :=
  inferInstanceAs (Decidable (_ ∨ _))

/-- The allocations with memory of the context's allocator that outlive the context. -/
def outliving (c : Context) (s : Session) : List AllocationId :=
  (List.range s.store.allocations.length).filter fun id =>
    (s.store.memory? c.allocator id).isSome ∧ s.Outlives c id

theorem mem_inPoolsBeside_iff {p : PoolId} {s : Session} :
    id ∈ s.inPoolsBeside p ↔
      ∃ q ∈ s.livePools, q ≠ p ∧ ∃ entry ∈ s.store.slots q, entry.2.handle? = some id := by
  simp [inPoolsBeside, List.mem_flatMap, List.mem_filterMap, and_assoc]

theorem mem_livePools_iff {p : PoolId} {s : Session} : p ∈ s.livePools ↔ p ∈ s.holdings.pools :=
  ⟨mem_pools_of_livePools, mem_livePools_of_pools⟩

/-- An allocation that some handle reaches has handles. -/
theorem Sound.handles_pos_of_reached (hs : s.Sound) (hid : id ∈ s.inHands ∨ id ∈ s.inPools) :
    0 < s.store.handles id := by
  rw [hs.balanced.handles, Multiset.count_pos, Multiset.mem_add]
  exact hid.imp mem_handles_of_inHands mem_retained_of_inPools

/-- A teardown leaves what the names hold as it was. -/
theorem holdings_tornDown (hs : s.Sound) (hc : s.contexts.lookup ctx = some c) :
    (s.tornDown ctx c).holdings = s.holdings := by
  rw [holdings_contexts, holdings_contexts s]
  refine congrArg (s.besideContexts + ·) ?_
  rw [Session.tornDown, Names.holdings_put, hs.distinct.contexts.holdings_eq Context.holdings ctx,
    hc]
  rfl

/-- What a handle reaches after a teardown outlived the context. -/
theorem reached_tornDown_iff (hs : s.Sound) (hc : s.contexts.lookup ctx = some c)
    (htorn : c.tornDown = false) :
    (id ∈ (s.tornDown ctx c).inHands ∨ id ∈ (s.tornDown ctx c).inPools) ↔ s.Outlives c id := by
  have hpool : (s.tornDown ctx c).store.slots c.pool = [] :=
    Store.slots_releaseContext htorn s.quiet.store
  have hother {p : PoolId} (hp : p ≠ c.pool) :
      (s.tornDown ctx c).store.slots p = s.store.slots p :=
    Store.slots_releaseContext_of_ne hp s.quiet.store
  refine or_congr Iff.rfl ?_
  rw [mem_inPools_iff, mem_inPoolsBeside_iff]
  simp only [mem_livePools_iff, holdings_tornDown hs hc]
  refine exists_congr fun p => and_congr_right fun _ => ?_
  by_cases hp : p = c.pool
  · subst hp
    simp [hpool]
  · rw [hother hp]
    simp [hp]

section Memory

variable {a : AllocatorId}

theorem onward_tornDown (ctx : String) (c : Context) (s : Session) :
    s.store.Onward ∅ c.clears (s.tornDown ctx c).store := by
  have hquiet : s.store.Onward ∅ ∅ s.quiet.store := .of_same rfl rfl
  have hreleased : s.quiet.store.Onward ∅ c.clears (s.released c) := .releaseContext ..
  exact (hreleased.after hquiet).andThen (.of_same rfl rfl)

theorem length_tornDown (ctx : String) (c : Context) (s : Session) :
    (s.tornDown ctx c).store.allocations.length = s.store.allocations.length :=
  (Store.Released.releaseContext s.quiet.store c).length

/-- The memory of what outlives a context stays, with its contents. -/
theorem Sound.block?_tornDown (hs : s.Sound) (hc : s.contexts.lookup ctx = some c)
    (htorn : c.tornDown = false) (hid : s.Outlives c id) :
    (s.tornDown ctx c).store.block? id = s.store.block? id := by
  have hpos : 0 < (s.tornDown ctx c).store.handles id :=
    (hs.tornDown hc).handles_pos_of_reached ((reached_tornDown_iff hs hc htorn).mpr hid)
  ext block
  constructor
  · exact (Store.Released.releaseContext s.quiet.store c).block?_eq_some
  · intro hblock
    obtain ⟨block', hblock', -, hsame⟩ := (onward_tornDown ctx c s).memory hblock hpos
    rwa [hsame (Set.notMem_empty id)] at hblock'

theorem Sound.memory?_tornDown (hs : s.Sound) (hc : s.contexts.lookup ctx = some c)
    (htorn : c.tornDown = false) (hid : s.Outlives c id) :
    (s.tornDown ctx c).store.memory? a id = s.store.memory? a id := by
  have hblock := hs.block?_tornDown hc htorn hid
  cases ha : s.store.allocations[id]? with
  | none =>
    have hnone : (s.tornDown ctx c).store.allocations[id]? = none := by
      rw [List.getElem?_eq_none_iff, length_tornDown]
      exact List.getElem?_eq_none_iff.mp ha
    rw [Store.memory?, Store.memory?, ha, hnone]
  | some allocation =>
    obtain ⟨allocation', ha', hallocator, -⟩ := (onward_tornDown ctx c s).made ha
    rw [Store.block?, Store.block?, ha, ha', Option.bind_some, Option.bind_some] at hblock
    rw [Store.memory?, Store.memory?, ha, ha', Option.bind_some, Option.bind_some, hallocator,
      hblock]

/-- After a teardown exactly what outlived the context is in use. -/
theorem Sound.inUse_tornDown (hs : s.Sound) (hc : s.contexts.lookup ctx = some c)
    (htorn : c.tornDown = false) : (s.tornDown ctx c).inUse c.allocator = s.outliving c := by
  rw [inUse, outliving, length_tornDown]
  refine List.filter_congr fun id _ => ?_
  rw [decide_eq_decide, reached_tornDown_iff hs hc htorn]
  exact and_congr_left fun hid => by rw [hs.memory?_tornDown hc htorn hid]

theorem sizeOf_tornDown (hid : id ∈ s.outliving c) :
    (s.tornDown ctx c).store.sizeOf id = s.store.sizeOf id := by
  have hlt : id < s.store.allocations.length := List.mem_range.mp (List.mem_filter.mp hid).1
  have ha := List.getElem?_eq_getElem hlt
  obtain ⟨a', ha', -, hsize⟩ := (onward_tornDown ctx c s).made ha
  rw [Store.sizeOf, Store.sizeOf, ha, ha', Option.map_some, Option.map_some, hsize]

end Memory

/-! ## The report -/

/-- The allocator has granted these allocations, and has nothing parked. -/
structure Reports (s : Session) (ids : List AllocationId) (usage : Usage) : Prop where
  cachedBuffers : usage.cachedBuffers = 0
  cachedBytes : usage.cachedBytes = 0
  liveBuffers : usage.liveBuffers = ids.length
  outstandingBuffers : usage.outstandingBuffers = ids.length
  liveBytes : usage.liveBytes = (ids.map s.store.sizeOf).sum
  outstandingBytes : usage.outstandingBytes = (ids.map s.store.sizeOf).sum

/-- A recycling allocator with nothing parked reports what is in use. -/
theorem Sound.reports {a : AllocatorId} {capacity : Nat} {state : Recycling (Metered Nat)}
    (hs : s.Sound)
    (ha : s.store.allocators[a]? = some ⟨.host, [.recycling capacity, .metered], state⟩)
    (hempty : state.parked = []) (hfew : (s.inUse a).length < Word.limit) :
    s.Reports (s.inUse a) (s.store.usage a) := by
  obtain ⟨⟨hcounts, -⟩, -⟩ := hs.parking ha
  rw [hempty, Parked.tags_nil, zero_add] at hcounts
  have husage : s.store.usage a =
      ⟨state.inner.meter.liveBuffers, state.inner.meter.liveBytes, state.inner.meter.peakBytes,
        state.inner.meter.totalAllocations, 0, 0⟩ := by
    have hraw : s.store.usage a =
        ⟨state.inner.meter.liveBuffers, state.inner.meter.liveBytes, state.inner.meter.peakBytes,
          state.inner.meter.totalAllocations, state.parked.length,
          (state.parked.map Block.size).sum⟩ := by
      rw [Store.usage, ha]
      rfl
    rw [hraw, hempty]
    rfl
  have hbuffers : state.inner.meter.liveBuffers = (s.inUse a).length := by
    rw [hcounts.buffers, Multiset.coe_card, List.length_map, Nat.mod_eq_of_lt hfew]
  have hbytes : state.inner.meter.liveBytes = ((s.inUse a).map s.store.sizeOf).sum := by
    rw [hcounts.bytes]
    simp [Tag.total, Function.comp_def]
  rw [husage]
  exact ⟨rfl, rfl, hbuffers, hbuffers, hbytes, hbytes⟩

/-- What the teardown of a context with a name does, which ends in `s'` and reports `usage`. -/
structure TearsDown (s : Session) (ctx : String) (c : Context) (usage : Usage) (s' : Session) :
    Prop where
  /-- An event tells of what is left if anything is. -/
  step : s.step (.context (.tearDown ctx)) =
    (⟨.ok (.usage usage),
      if s.outliving c = [] then []
      else [.outstandingAtTeardown c.device.canonical (s.outliving c).length
        ((s.outliving c).map s.store.sizeOf).sum]⟩, s')
  names : s' =
    { s with store := s'.store, contexts := s.contexts.put ctx { c with tornDown := true } }
  slots : s'.store.slots c.pool = []
  usageAfter : s'.store.usage c.allocator = usage
  reports : s.Reports (s.outliving c) usage
  inUse : s'.inUse c.allocator = s.outliving c
  memory : ∀ id, s.Outlives c id → s'.store.block? id = s.store.block? id
  others : ∀ p ≠ c.pool, s'.store.slots p = s.store.slots p
  again : s'.step (.context (.tearDown ctx)) = s.step (.context (.tearDown ctx))
  dropAfter : (s'.step (.context (.drop ctx))).1 = ⟨.ok (.flag true), []⟩
  /-- Without a teardown before it, a drop reports and leaves the same, the journal apart. -/
  dropInstead :
    (s.step (.context (.drop ctx))).1.events = (s.step (.context (.tearDown ctx))).1.events ∧
      (s.step (.context (.drop ctx))).2.quiet = (s'.step (.context (.drop ctx))).2.quiet

theorem Reachable.reports_released (hs : s.Reachable) (hc : s.contexts.lookup ctx = some c)
    (htorn : c.tornDown = false) (hfew : (s.outliving c).length < Word.limit) :
    s.Reports (s.outliving c) ((s.released c).usage c.allocator) := by
  obtain ⟨-, capacity, hdevice⟩ := hs.equipped.contexts ctx c hc
  have hcleared : s.store.Leads ∅ (s.quiet.store.clearPool c.pool) :=
    (Store.Leads.aside ..).trans (.clearPool s.quiet.store c.pool)
  obtain ⟨state, hstate⟩ := hcleared.hasDevice hdevice
  have hbalanced : (s.quiet.store.clearPool c.pool).Balanced s.holdings :=
    hs.sound.quiet.balanced.clearPool c.pool
  have hreleased : (s.quiet.store.clearPool c.pool).trim c.allocator = s.released c := by
    rw [released, Context.release, if_neg (by simp [htorn])]
  obtain ⟨state', hempty, hstate'⟩ := hreleased ▸ hbalanced.getElem?_trim hstate
  have hinUse := hs.sound.inUse_tornDown hc htorn
  have hreports := (hs.sound.tornDown hc).reports hstate' hempty (hinUse ▸ hfew)
  rw [hinUse] at hreports
  have hsizes : (s.outliving c).map (s.tornDown ctx c).store.sizeOf =
      (s.outliving c).map s.store.sizeOf :=
    List.map_congr_left fun id hid => sizeOf_tornDown hid
  obtain ⟨hcached, hcachedBytes, hlive, hout, hliveBytes, houtBytes⟩ := hreports
  exact ⟨hcached, hcachedBytes, hlive, hout, hliveBytes.trans (congrArg _ hsizes),
    houtBytes.trans (congrArg _ hsizes)⟩

/-- The event of a teardown carries the numbers of what outlives the context. -/
theorem Reports.leftover_eq (h : s.Reports (s.outliving c) ((s.released c).usage c.allocator)) :
    c.leftover (s.released c) =
      if s.outliving c = [] then []
      else [.outstandingAtTeardown c.device.canonical (s.outliving c).length
        ((s.outliving c).map s.store.sizeOf).sum] := by
  rw [Context.leftover, h.outstandingBuffers, h.outstandingBytes]
  by_cases hnone : s.outliving c = []
  · simp [hnone]
  · rw [if_pos (List.length_pos_iff.mpr hnone), if_neg hnone]

theorem Reachable.tearsDown (hs : s.Reachable) (hc : s.contexts.lookup ctx = some c)
    (htorn : c.tornDown = false) (hfew : (s.outliving c).length < Word.limit) :
    s.TearsDown ctx c ((s.released c).usage c.allocator) (s.tornDown ctx c) := by
  have hreports := hs.reports_released hc htorn hfew
  have hstep := step_tearDown hs.sound hc
  obtain ⟨hdrop, hleft⟩ := step_drop_of_not_tornDown hs.sound hc htorn
  refine ⟨?_, rfl, ?_, rfl, hreports, hs.sound.inUse_tornDown hc htorn, fun id hid => ?_,
    fun p hp => ?_, step_tearDown_tornDown hs.sound hc, step_drop_tornDown hs.sound hc, ?_, hleft⟩
  · rw [hstep, hreports.leftover_eq]
  · exact Store.slots_releaseContext htorn s.quiet.store
  · exact hs.sound.block?_tornDown hc htorn hid
  · exact Store.slots_releaseContext_of_ne hp s.quiet.store
  · rw [hdrop, hstep]

/-- In every session that commands reach, a teardown that is the first of its context releases
    what no one else reaches and reports the rest. All contexts of a registry share their
    allocator, with the capacity that the first of them asked for. -/
theorem teardown_exact {commands : List Command} (hclean : empty.isClean commands = true)
    (hc : (empty.after commands).contexts.lookup ctx = some c) (htorn : c.tornDown = false)
    (hfew : ((empty.after commands).outliving c).length < Word.limit) :
    (∃ usage s', (empty.after commands).TearsDown ctx c usage s') ∧ c.device = .cpu ∧
      ∀ n before config, From commands before n config c →
        ∀ before' config' c', From commands before' n config' c' →
          c'.allocator = c.allocator ∧
            ((∀ r, (empty.after before').registryOf n = some r → r.allocators = []) →
              (empty.after commands).store.HasDevice c.allocator config'.cacheCapacity) := by
  have hs : (empty.after commands).Reachable := Reachable.empty.after hclean
  refine ⟨⟨_, _, hs.tearsDown hc htorn hfew⟩, (hs.equipped.contexts ctx c hc).1, ?_⟩
  intro n before config hfrom before' config' c' hfrom'
  have hsame := hfrom.allocator_eq hclean hfrom'
  exact ⟨hsame, fun hfirst => hsame ▸ hfrom'.hasDevice hclean hfirst⟩

/-- Two contexts of one registry, which ask for different capacities. The pool of the first has
    two slots, one with a handle outside; a slot of the other pool is all that keeps a third
    allocation. -/
def twoContexts : List Command :=
  [.context (.makeRegistry "shared"),
    .context (.setUp "first" ⟨none, none, none, some true, some 2⟩ (some "shared")),
    .context (.setUp "second" ⟨none, none, none, some true, some 5⟩ (some "shared")),
    .context (.sharePool "own" "first"),
    .context (.sharePool "other" "second"),
    .pool (.acquire "kept" "own" ⟨1, by decide⟩ .int32 [2]),
    .pool (.acquire "gone" "own" ⟨2, by decide⟩ .int32 [3]),
    .buffer (.drop "gone"),
    .pool (.acquire "far" "other" ⟨1, by decide⟩ .int64 [1]),
    .buffer (.drop "far")]

theorem teardown_exact_twoContexts :
    ∃ first second : Context,
      (empty.after twoContexts).contexts.lookup "first" = some first ∧
        first.tornDown = false ∧ (empty.after twoContexts).outliving first = [0, 2] ∧
        (∃ usage s', (empty.after twoContexts).TearsDown "first" first usage s') ∧
        second.allocator = first.allocator ∧
        (empty.after twoContexts).store.HasDevice first.allocator 2 := by
  have hfirst : From twoContexts (twoContexts.take 1) (some "shared")
      { Config.default with retainShared := true, cacheCapacity := 2 }
      ⟨.cpu, 0, 1, 0, 0, Grid.ofThreads Config.default.threadsPerBlock, false⟩ :=
    ⟨_, _, rfl, ⟨_, _, _, rfl, rfl, rfl, rfl⟩, by decide⟩
  have hsecond : From twoContexts (twoContexts.take 2) (some "shared")
      { Config.default with retainShared := true, cacheCapacity := 5 }
      ⟨.cpu, 0, 1, 0, 1, Grid.ofThreads Config.default.threadsPerBlock, false⟩ :=
    ⟨_, _, rfl, ⟨_, _, _, rfl, rfl, rfl, rfl⟩, by decide⟩
  have hlookup : (empty.after twoContexts).contexts.lookup "first" =
      some ⟨.cpu, 0, 1, 0, 0, Grid.ofThreads Config.default.threadsPerBlock, false⟩ := rfl
  obtain ⟨htears, -, hshared⟩ := teardown_exact rfl hlookup rfl (by decide)
  refine ⟨_, _, rfl, rfl, rfl, htears, (hshared _ _ _ hfirst _ _ _ hsecond).1, ?_⟩
  refine (hshared _ _ _ hfirst _ _ _ hfirst).2 fun r hr => ?_
  cases hr
  rfl

end Session

end DeviceMemory
