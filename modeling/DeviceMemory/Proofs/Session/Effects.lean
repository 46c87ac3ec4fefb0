-- SUMMARY: The effect of each command: a success moves the session on as the command says, a failure harms nothing.
import DeviceMemory.Proofs.Session.Moves

/-!
# Effects of commands

One lemma for each kind of command, one case for each command: a success moves
the session on by what the command writes, forgets and files, and a failure,
whatever its cause and however late it comes, leaves all that users can see. The
same holds of steps (`Sound.step_moves`, `Sound.step_failed`).
-/

namespace DeviceMemory.Session

open Turn

variable {s₀ s : Session}

/-! ## Allocators -/

theorem AllocatorCommand.moves_run (c : AllocatorCommand) (hc : c.isDirect = false) :
    Triple (AtStart s₀) c.run (fun _ => s₀.Moves ∅ ∅ ∅) s₀.Failed := by
  have hstart : ∀ s, AtStart s₀ s → s₀.Moves ∅ ∅ ∅ s := fun s hs => moves_start hs
  cases c with
  | make id base layers =>
    refine Triple.bind (under_change (Q := fun _ => s₀.store.Onward ∅ ∅) ?_) fun a => ?_
    · rintro _ rfl
      exact .of_same rfl rfl
    refine Triple.bind (under_rename fun _ => rfl) fun _ => ?_
    exact Triple.bind (under_ask _) fun _ => Triple.pure fun _ hs => moves_of_under hs rfl
  | usage alloc =>
    exact moves_using (fun _ => rfl) fun a _ =>
      Triple.bind (under_ask _) fun _ => Triple.pure hstart
  | trim alloc =>
    refine moves_using (fun _ => rfl) fun a _ => ?_
    refine Triple.bind (under_update (Q := s₀.store.Onward ∅ ∅) ?_) fun _ =>
      Triple.pure fun _ hs => moves_of_under hs rfl
    rintro _ rfl
    exact .trim _ a
  | synchronize alloc =>
    exact moves_using (fun _ => rfl) fun a _ => Triple.pure hstart
  | drop id =>
    exact Triple.bind Triple.get fun _ => moves_rename onward_start (fun _ => rfl) rfl
  | takeBlock id alloc size zeroed => cases hc
  | giveBlock id alloc => cases hc
  | writeBlock id bytes =>
    refine moves_using (fun _ => rfl) fun b _ => ?_
    exact Triple.bind (under_since Action.triple_checked) fun b =>
      moves_rename (fun _ hs => .of_since hs) (fun _ => rfl) rfl
  | clearBlock id =>
    exact moves_using (fun _ => rfl) fun b _ => moves_rename onward_start (fun _ => rfl) rfl

/-! ## Buffers -/

/-- A buffer that the store made gets a name. -/
theorem moves_answerMade {id : String} {act : Action DeviceError Buffer}
    (hact : Triple (s₀.store.Since ∅ 0) act (fun b => s₀.store.Since ∅ (b.allocation ::ₘ 0))
      (s₀.store.Since ∅ 0)) :
    Triple (AtStart s₀) (onDevice act >>= answerBuffer id) (fun _ => s₀.Moves ∅ ∅ ∅)
      s₀.Failed := by
  refine Triple.bind (under_since hact) fun b => Triple.bind (under_ask _) fun _ => ?_
  refine Triple.bind ((moves_nameBuffer id b).conseq ?_ (fun _ _ hs => hs) fun _ hs => hs)
    fun _ => Triple.pure fun _ hs => hs
  rintro _ ⟨store, hstore, rfl⟩
  exact ⟨store, .of_since hstore, rfl⟩

theorem Sound.reaches_buffer (hs₀ : s₀.Sound) {name : String} {b : Buffer}
    (hb : s₀.buffers.lookup name = some b) : s₀.store.Reaches 0 b.allocation :=
  .inr (hs₀.balanced.handles_pos (mem_handles_of_buffer hs₀.distinct hb))

theorem insert_subset_written {name : String} {b : Buffer}
    (hb : s₀.buffers.lookup name = some b) : insert b.allocation ∅ ⊆ s₀.written name := by
  rintro id (rfl | hid)
  · simp [written, hb]
  · exact absurd hid (Set.notMem_empty id)

/-- A turn that writes to a named buffer. -/
theorem moves_write {name : String} {b : Buffer} {answer : Unit → Answer}
    (hb : s₀.buffers.lookup name = some b) {act : Action DeviceError Unit}
    (hact : Triple (s₀.store.Since ∅ 0) act (fun _ => s₀.store.Since (insert b.allocation ∅) 0)
      (s₀.store.Since ∅ 0)) :
    Triple (AtStart s₀) (onDevice act >>= fun a => pure (answer a))
      (fun _ => s₀.Moves (s₀.written name) ∅ ∅) s₀.Failed :=
  moves_finish (hact.conseq (fun _ hs => hs)
    (fun _ _ hs => hs.mono (insert_subset_written hb)) fun _ hs => hs)

theorem BufferCommand.moves_run (hs₀ : s₀.Sound) (c : BufferCommand) :
    Triple (AtStart s₀) c.run (fun _ => s₀.Moves ((Command.buffer c).writes s₀) ∅ ∅)
      s₀.Failed := by
  have hstart : ∀ s, AtStart s₀ s → s₀.Moves ∅ ∅ ∅ s := fun s hs => moves_start hs
  cases c with
  | create id alloc t shape zeroed =>
    refine moves_using (fun _ => rfl) fun a _ => moves_answerMade ?_
    exact (Buffer.since_create a t shape zeroed).conseq (fun _ hs => hs) (fun _ _ hs => hs.1)
      fun _ hs => hs
  | allocate id alloc t shape zeroed =>
    refine moves_using (fun _ => rfl) fun a _ => moves_answerMade ?_
    exact (Buffer.since_allocate a t shape zeroed).conseq (fun _ hs => hs) (fun _ _ hs => hs.1)
      fun _ hs => hs
  | view id buf offset size =>
    refine moves_using (fun _ => rfl) fun b hb => moves_answerMade ?_
    exact (Buffer.since_view (hs₀.reaches_buffer hb) offset size).conseq (fun _ hs => hs)
      (fun _ _ hs => hs.1) fun _ hs => hs
  | clone id buf =>
    refine moves_using (fun _ => rfl) fun b hb => moves_answerMade ?_
    exact (Buffer.since_clone (hs₀.reaches_buffer hb)).conseq (fun _ hs => hs)
      (fun _ _ hs => hs.1) fun _ hs => hs
  | detach id buf =>
    refine moves_using (fun _ => rfl) fun b _ => moves_answerMade ?_
    exact (Buffer.since_detach b).conseq (fun _ hs => hs) (fun _ _ hs => hs.1) fun _ hs => hs
  | acquire buf =>
    exact moves_using (fun _ => rfl) fun b _ => moves_finish (Buffer.since_acquire b)
  | zero buf =>
    exact moves_using (fun _ => rfl) fun b hb => moves_write hb (Buffer.since_zero b)
  | synchronize buf => exact moves_using (fun _ => rfl) fun _ _ => Triple.pure hstart
  | describe buf =>
    exact moves_using (fun _ => rfl) fun _ _ =>
      Triple.bind (under_ask _) fun _ => Triple.pure hstart
  | shares buf other =>
    exact moves_using (fun _ => rfl) fun _ _ =>
      moves_using (fun _ => rfl) fun _ _ => Triple.pure hstart
  | usage buf =>
    exact moves_using (fun _ => rfl) fun _ _ =>
      Triple.bind (under_ask _) fun _ => Triple.pure hstart
  | write buf bytes =>
    exact moves_using (fun _ => rfl) fun b hb =>
      moves_write hb (Buffer.since_write b bytes)
  | read buf size =>
    exact moves_using (fun _ => rfl) fun b _ => moves_finish (Buffer.since_read b _)
  | copy buf source =>
    exact moves_using (fun _ => rfl) fun b hb => moves_using (fun _ => rfl)
      fun source _ => moves_write hb (Buffer.since_copyFrom b source)
  | drop id => exact moves_dropBuffer id
  | launch d t buf indices source n block g =>
    refine moves_using (fun _ => rfl) fun b hb => moves_using (fun _ => rfl)
      fun positions _ => moves_using (fun _ => rfl) fun values _ => ?_
    exact moves_write hb (Kernel.since_launch d t b positions values n block g)
  | reduce r t buf g =>
    exact moves_using (fun _ => rfl) fun b _ =>
      moves_finish (Kernel.since_launchReduction r t b g)

/-! ## Pools -/

theorem Sound.poolHandles_pos (hs₀ : s₀.Sound) {p : PoolId} (hp : p ∈ s₀.holdings.pools) :
    0 < s₀.store.poolHandles p := by
  rw [hs₀.balanced.poolHandles p]
  exact Multiset.count_pos.mpr hp

theorem Sound.lt_length_pools (hs₀ : s₀.Sound) {p : PoolId} (hp : p ∈ s₀.holdings.pools) :
    p < s₀.store.pools.length := by
  have hpos := hs₀.poolHandles_pos hp
  by_contra hge
  rw [Store.poolHandles, List.getElem?_eq_none (Nat.le_of_not_lt hge)] at hpos
  cases hpos

/-- A turn that acquires a key moves on by what it made. -/
theorem moves_of_acquired (hs₀ : s₀.Sound) {p : PoolId} {key : PoolKey} {t : ScalarType}
    {shape : List Nat} {b : Buffer} {acquisition : Acquisition} {store : Store}
    {filings : Set (PoolId × PoolKey × AllocationId)} (hp : p ∈ s₀.holdings.pools)
    (ha : Pool.Acquired p key t shape s₀.store (b, acquisition) store)
    (hs : store.Onward ∅ ∅ s.store)
    (hfilings : filings = {entry | acquisition.isFresh = true ∧ entry = (p, key, b.allocation)})
    (harrays : ∀ entry ∈ s.arrays,
      entry.2.Arisen s₀.arrays (s₀.store.shown ∪ filings) s.store) :
    s₀.Moves ∅ ∅ filings s := by
  refine ⟨?_, harrays⟩
  rw [hfilings]
  exact .of_acquired hs₀.balanced (hs₀.lt_length_pools hp) ha hs

theorem PoolCommand.moves_run (hs₀ : s₀.Sound) (c : PoolCommand) :
    Triple (AtStart s₀) c.run
      (fun answer s => s₀.Moves ∅ ((Command.pool c).forgets s₀)
        ((Command.pool c).filings s₀ answer s) s) s₀.Failed := by
  have hstart : ∀ s, AtStart s₀ s → s₀.Moves ∅ ∅ ∅ s := fun s hs => moves_start hs
  cases c with
  | make id alloc retains =>
    refine moves_using (fun _ => rfl) fun a _ => ?_
    refine Triple.bind (under_change (Q := fun _ => s₀.store.Onward ∅ ∅) ?_) fun p => ?_
    · rintro _ rfl
      exact .addPool _ a retains
    exact Triple.bind (moves_namePool id p) fun _ => Triple.pure fun _ hs => hs
  | clone id pool =>
    refine moves_using (fun _ => rfl) fun p hp => ?_
    refine Triple.bind (under_update (Q := s₀.store.Onward ∅ ∅) ?_) fun _ => ?_
    · rintro _ rfl
      exact .addPoolHandle (hs₀.poolHandles_pos (mem_pools_of_pool hs₀.distinct hp))
    exact Triple.bind (moves_namePool id p) fun _ => Triple.pure fun _ hs => hs
  | acquire id pool key t shape =>
    refine moves_using (fun _ => rfl) fun p hp => ?_
    have hacquire : Triple (fun store => store = s₀.store) (Pool.acquire p key t shape)
        (Pool.Acquired p key t shape s₀.store)
        ((Pool.pruned p key s₀.store).Since ∅ 0) := by
      rintro _ rfl
      exact Pool.acquire_ends p key t shape
    refine Triple.bind (under_act hacquire ?_) fun (b, acquisition) => ?_
    · rintro _ ⟨store, hstore, rfl⟩
      exact ⟨store, hs₀.balanced.spared hstore, rfl⟩
    refine Triple.bind (under_ask _) fun description => ?_
    refine Triple.via (fun _ s => s₀.Moves ∅ ∅
      ((Command.pool (.acquire id pool key t shape)).filings s₀ (.slot acquisition description) s)
      s) ?_ fun _ => Triple.pure fun _ hs => hs
    refine Triple.modify ?_
    rintro _ ⟨store, hstore, rfl⟩
    refine moves_of_acquired hs₀ (mem_pools_of_pool hs₀.distinct hp) hstore
      (onward_dropBuffer (s₀.buffers.lookup id) store) ?_ fun _ hentry =>
        AnyArray.arisen_of_mem hentry
    cases acquisition with
    | reused => simp [Command.filings, Acquisition.isFresh]
    | fresh =>
      ext ⟨p', key', A⟩
      simp [Command.filings, Acquisition.isFresh, hp, eq_comm]
  | describe pool keys =>
    exact moves_using (fun _ => rfl) fun _ _ =>
      (under_ask _).conseq (fun _ hs => hs) (fun _ s hs => hstart s hs) fun _ hs => hs
  | release pool key =>
    refine moves_using (fun _ => rfl) fun p hp => ?_
    refine Triple.bind (under_change (Q := fun _ => s₀.store.Onward ∅ {(p, key)}) ?_) fun _ =>
      Triple.pure fun _ hs => ?_
    · rintro _ rfl
      exact .release _ p key
    have hforgets : (Command.pool (.release pool key)).forgets s₀ = {(p, key)} := by
      ext ⟨p', key'⟩
      simp [Command.forgets, hp, eq_comm]
    rw [hforgets]
    exact moves_of_under hs rfl
  | clear pool =>
    refine moves_using (fun _ => rfl) fun p hp => ?_
    refine Triple.bind (under_update (Q := s₀.store.Onward ∅ {entry | entry.1 = p}) ?_) fun _ =>
      Triple.pure fun _ hs => ?_
    · rintro _ rfl
      exact .clearPool _ p
    have hforgets : (Command.pool (.clear pool)).forgets s₀ = {entry | entry.1 = p} := by
      ext ⟨p', key'⟩
      simp [Command.forgets, hp, eq_comm]
    rw [hforgets]
    exact moves_of_under hs rfl
  | drop id => exact moves_dropPool id

/-! ## Contexts -/

/-- A context that was set up is described and gets a name. -/
theorem moves_nameSetUp {err : Session → Prop} (id : String) (c : Context) :
    Triple (Under s₀ (s₀.store.Onward ∅ ∅))
      (describeContext c >>= fun description => nameContext id c >>= fun _ => pure description)
      (fun _ => s₀.Moves ∅ (s₀.cleared id) ∅) err :=
  Triple.bind (under_ask _) fun _ =>
    Triple.bind (moves_nameContext id c) fun _ => Triple.pure fun _ hs => hs

theorem ContextCommand.moves_run (hs₀ : s₀.Sound) (c : ContextCommand) :
    Triple (AtStart s₀) c.run (fun _ => s₀.Moves ∅ ((Command.context c).forgets s₀) ∅)
      s₀.Failed := by
  have hstart : ∀ s, AtStart s₀ s → s₀.Moves ∅ ∅ ∅ s := fun s hs => moves_start hs
  have hfailed : ∀ s, AtStart s₀ s → s₀.Failed s := fun s hs => failed_start hs
  cases c with
  | makeRegistry id =>
    exact moves_rename onward_start (fun _ => rfl) rfl
  | allocator id registry device capacity =>
    refine moves_using (fun _ => rfl) fun r _ => ?_
    refine Triple.bind (under_ofExcept _ hfailed) fun device => ?_
    refine Triple.bind (under_since (r.since_get device capacity)) fun result => ?_
    refine Triple.bind (under_rename fun _ => rfl) fun _ => ?_
    refine Triple.bind Triple.get fun _ => ?_
    refine Triple.bind (under_rename fun _ => rfl) fun _ => ?_
    refine Triple.bind (under_ask _) fun _ => Triple.pure ?_
    rintro _ ⟨store, hstore, rfl⟩
    exact moves_of_under ⟨store, .of_since hstore, rfl⟩ rfl
  | sharedAllocator device =>
    refine Triple.bind (under_ofExcept _ hfailed) fun device => ?_
    refine Triple.bind Triple.get fun now => ?_
    refine Triple.bind (under_since (now.shared.since_get device _)) fun result => ?_
    refine Triple.bind (under_act (result.2.since_get .cpu _) fun _ hs => failed_since hs)
      fun host => ?_
    refine Triple.bind (under_rename fun _ => rfl) fun _ => ?_
    refine Triple.bind (under_ask _) fun _ => Triple.pure ?_
    rintro _ ⟨store, hstore, rfl⟩
    exact moves_of_under ⟨store, .of_since hstore, rfl⟩ rfl
  | setUp id settings registry =>
    refine Triple.bind (under_ofExcept _ hfailed) fun config => ?_
    cases registry with
    | some name =>
      refine Triple.bind (under_find (fun _ => rfl) name hfailed) fun r => Triple.given fun _ => ?_
      refine Triple.bind (under_since (Context.onward_setUp r config)) fun result => ?_
      refine Triple.bind (under_rename fun _ => rfl) fun _ => ?_
      exact (moves_nameSetUp id result.1).conseq (fun _ hs => hs)
        (fun _ _ hs => ⟨hs.store, hs.arrays⟩) fun _ hs => hs
    | none =>
      refine Triple.bind Triple.get fun now => ?_
      refine Triple.bind (under_since (Context.onward_setUp now.shared config)) fun result => ?_
      refine Triple.bind (under_rename fun _ => rfl) fun _ => ?_
      exact (moves_nameSetUp id result.1).conseq (fun _ hs => hs)
        (fun _ _ hs => ⟨hs.store, hs.arrays⟩) fun _ hs => hs
  | describe ctx =>
    refine moves_using (fun _ => rfl) fun c _ => ?_
    exact (under_ask _).conseq (fun _ hs => hs) (fun _ s hs => hstart s hs) fun _ hs => hs
  | shareAllocator id ctx =>
    exact moves_using (fun _ => rfl) fun c _ => moves_rename onward_start (fun _ => rfl) rfl
  | sharePool id ctx =>
    refine moves_using (fun _ => rfl) fun c hc => ?_
    refine Triple.bind (under_update (Q := s₀.store.Onward ∅ ∅) ?_) fun _ => ?_
    · rintro _ rfl
      exact .addPoolHandle (hs₀.poolHandles_pos (mem_pools_of_context hs₀.distinct hc))
    exact Triple.bind (moves_namePool id c.pool) fun _ => Triple.pure fun _ hs => hs
  | tearDown ctx =>
    refine moves_using (fun _ => rfl) fun c hc => ?_
    refine Triple.bind (under_change (Q := fun _ => s₀.store.Onward ∅ c.clears) ?_) fun result => ?_
    · rintro _ rfl
      exact .tearDown _ c
    refine Triple.bind (under_rename fun _ => rfl) fun _ => Triple.pure fun _ hs => ?_
    have hforgets : (Command.context (.tearDown ctx)).forgets s₀ = c.clears := by
      ext entry
      simp [Command.forgets, cleared, hc]
    rw [hforgets]
    exact moves_of_under hs rfl
  | drop id => exact moves_dropContext id

/-! ## Arrays -/

/-- An array that the store made gets a name. -/
theorem moves_nameMade {id : String} {t : ScalarType} {e : ElementShape}
    {act : Action ArrayError (BlockArray t e)}
    (hact : BlockArray.Builds s₀.store act) :
    Triple (AtStart s₀)
      (onArray act >>= fun a => nameArray id ⟨t, e, a⟩ >>= fun _ => pure Answer.nothing)
      (fun _ => s₀.Moves ∅ ∅ ∅) s₀.Failed :=
  Triple.bind (under_act (hact.conseq (fun _ hs => hs)
    (fun _ _ hs => ⟨hs.onward, hs.unfilled⟩) fun _ hs => hs) fun _ hs => failed_since hs) fun a =>
    Triple.bind (moves_nameArray id ⟨t, e, a⟩) fun _ => Triple.pure fun _ hs => hs

/-- A turn that writes to a named array. -/
theorem moves_writeArray {name : String} {a : AnyArray} {answer : Unit → Answer}
    (ha : s₀.arrays.lookup name = some a) {act : Action ArrayError Unit}
    (hact : Triple (s₀.store.Since ∅ 0) act (fun _ => s₀.store.Since (∅ ∪ a.array.target) 0)
      (s₀.store.Since ∅ 0)) :
    Triple (AtStart s₀) (onArray act >>= fun a => pure (answer a))
      (fun _ => s₀.Moves (s₀.writtenArray name) ∅ ∅) s₀.Failed := by
  refine moves_finish (hact.conseq (fun _ hs => hs) (fun _ _ hs => hs.mono ?_) fun _ hs => hs)
  rintro id (hid | hid)
  · exact absurd hid (Set.notMem_empty id)
  · exact ⟨a, ha, hid⟩

theorem under_readLiterals (t : ScalarType) (name : String)
    (values : List Literal) :
    Triple (AtStart s₀) (readLiterals t name values) (fun _ => AtStart s₀) s₀.Failed :=
  (under_required name _ fun _ hs => failed_start hs).conseq (fun _ hs => hs)
    (fun _ _ hs => hs.1) fun _ hs => hs

theorem Sound.reached_array (hs₀ : s₀.Sound) {name : String} {a : AnyArray}
    (ha : s₀.arrays.lookup name = some a) : a.array.Reached s₀.store 0 :=
  (heldIn_of_array hs₀.distinct ha).reached hs₀.balanced

theorem under_describeArray {t : ScalarType} {e : ElementShape}
    (a : BlockArray t e) :
    Triple (AtStart s₀) (describeArray a) (fun _ => s₀.Moves ∅ ∅ ∅) s₀.Failed := by
  refine Triple.bind (under_since Action.triple_checked) fun numel => ?_
  refine Triple.bind (under_act Action.triple_checked fun _ hs => failed_since hs) fun size => ?_
  refine Triple.pure ?_
  rintro _ ⟨store, hstore, rfl⟩
  exact moves_of_under ⟨store, .of_since hstore, rfl⟩ rfl

/-- An acquired array is put back with what its pool shows then. -/
theorem moves_acquireArray (hs₀ : s₀.Sound) (hformed : s₀.store.SlotsFormed) (arr : String) :
    Triple (AtStart s₀) (ArrayCommand.acquire arr).run
      (fun answer s => s₀.Moves ∅ ∅ ((Command.array (.acquire arr)).filings s₀ answer s) s)
      s₀.Failed := by
  refine moves_using (fun _ => rfl) fun a ha => ?_
  refine Triple.bind (under_act (BlockArray.triple_acquired hs₀.balanced a.array) fun s hs => hs)
    fun (flag, array) => ?_
  refine Triple.via (fun _ s => s₀.Moves ∅ ∅ ((Command.array (.acquire arr)).filings s₀
    (.flag flag) s) s) (Triple.modify ?_) fun _ => Triple.pure fun _ hs => hs
  rintro _ ⟨store, hstore, rfl⟩
  have hmem := Entries.mem_of_lookup ha
  cases hstore with
  | again hbuffer hshared =>
    exact ⟨(Store.Onward.refl _).moved, arisen_put (.kept hmem a.array.grid)⟩
  | owned hbuffer howned hs =>
    have hnone : (Command.array (.acquire arr)).filings s₀ (.flag true)
        { s₀ with store := store, arrays := s₀.arrays.put arr ⟨a.t, a.e, a.array⟩ } = ∅ := by
      ext entry
      simp [Command.filings, ha, howned]
    rw [hnone]
    exact ⟨(Store.Onward.of_since hs).moved, arisen_put (.kept hmem a.array.grid)⟩
  | @slot pool key b acquisition _ hbuffer hshared hpool hs =>
    have hfilings : (Command.array (.acquire arr)).filings s₀ (.flag acquisition.isFresh)
        { s₀ with
          store := store
          arrays := s₀.arrays.put arr ⟨a.t, a.e, { a.array with buffer := some b }⟩ } =
        {entry | acquisition.isFresh = true ∧ entry = (pool, key, b.allocation)} := by
      cases acquisition with
      | reused => simp [Command.filings, Acquisition.isFresh]
      | fresh =>
        ext ⟨p', key', A⟩
        simp [Command.filings, Acquisition.isFresh, ha, hpool, hshared, eq_comm]
    refine moves_of_acquired hs₀ (mem_pools_of_array hs₀.distinct ha hpool) hs (.refl store)
      hfilings (arisen_put ?_)
    refine .acquired hmem hshared hpool ?_ (hformed.covers hs₀.balanced hs)
    rw [hfilings]
    cases hs with
    | reused hlive hsize hsame => exact .inl hlive
    | fresh hnone hs hnew hcovers => exact .inr ⟨rfl, rfl⟩

theorem ArrayCommand.moves_run (hs₀ : s₀.Sound) (hformed : s₀.store.SlotsFormed)
    (c : ArrayCommand) :
    Triple (AtStart s₀) c.run
      (fun answer s => s₀.Moves ((Command.array c).writes s₀) ∅
        ((Command.array c).filings s₀ answer s) s) s₀.Failed := by
  have hstart : ∀ s, AtStart s₀ s → s₀.Moves ∅ ∅ ∅ s := fun s hs => moves_start hs
  have hfailed : ∀ s, AtStart s₀ s → s₀.Failed s := fun s hs => failed_start hs
  cases c with
  | new id t e alloc len =>
    exact moves_using (fun _ => rfl) fun a _ =>
      moves_nameMade (BlockArray.builds_new e t a len)
  | fromHost id t e alloc values =>
    refine moves_using (fun _ => rfl) fun a _ => ?_
    refine Triple.bind (under_readLiterals t id values) fun values => ?_
    exact moves_nameMade (BlockArray.builds_fromHost e t a values)
  | shared id t e pool key len =>
    refine moves_using (fun _ => rfl) fun p hp => moves_nameMade ?_
    exact BlockArray.builds_shared (hs₀.poolHandles_pos (mem_pools_of_pool hs₀.distinct hp)) e t key
      len
  | withId id t e pool key len =>
    refine moves_using (fun _ => rfl) fun p hp => moves_nameMade ?_
    exact BlockArray.builds_withId (hs₀.poolHandles_pos (mem_pools_of_pool hs₀.distinct hp)) e t key
      len
  | inContext id t e ctx len =>
    exact moves_using (fun _ => rfl) fun c _ =>
      moves_nameMade (BlockArray.builds_inContext e t c len)
  | sharedIn id t e ctx key len =>
    refine moves_using (fun _ => rfl) fun c hc => moves_nameMade ?_
    exact BlockArray.builds_sharedIn (hs₀.poolHandles_pos (mem_pools_of_context hs₀.distinct hc)) e
      t key len
  | setGrid arr g =>
    refine moves_using (fun _ => rfl) fun a ha => ?_
    refine Triple.via (fun _ => s₀.Moves ∅ ∅ ∅) (Triple.modify ?_) fun _ =>
      Triple.pure fun _ hs => hs
    rintro _ ⟨_, rfl, rfl⟩
    exact ⟨(Store.Onward.refl _).moved, arisen_put (.kept (Entries.mem_of_lookup ha) g)⟩
  | describe arr =>
    exact moves_using (fun _ => rfl) fun a _ => under_describeArray a.array
  | acquire arr => exact moves_acquireArray hs₀ hformed arr
  | zero arr =>
    exact moves_using (fun _ => rfl) fun a ha =>
      moves_writeArray ha (BlockArray.since_zero a.array)
  | toHost arr =>
    exact moves_using (fun _ => rfl) fun a _ =>
      moves_finish (BlockArray.since_toHost a.array)
  | ofHost arr values =>
    refine moves_using (fun _ => rfl) fun a ha => ?_
    refine Triple.bind (under_readLiterals a.t arr values) fun values => ?_
    exact moves_writeArray ha (BlockArray.since_ofHost a.array values)
  | copy arr source index count =>
    refine moves_using (fun _ => rfl) fun a ha => moves_using (fun _ => rfl)
      fun source hsource => ?_
    refine Triple.bind (under_required _ _ hfailed) fun b => Triple.given fun hb => ?_
    exact moves_writeArray ha (BlockArray.since_copyFrom a.array index b.2 count
      (hs₀.reached_array ha)
      ((heldIn_of_ofType? hb (heldIn_of_array hs₀.distinct hsource)).reached hs₀.balanced))
  | scatter arr indices source n =>
    refine moves_using (fun _ => rfl) fun a ha => moves_using (fun _ => rfl)
      fun indices _ => ?_
    refine Triple.bind (under_required _ _ hfailed) fun positions => Triple.given fun _ => ?_
    refine moves_using (fun _ => rfl) fun source _ => ?_
    refine Triple.bind (under_required _ _ hfailed) fun values => Triple.given fun _ => ?_
    exact moves_writeArray ha (BlockArray.since_scatter a.array values positions n)
  | gather arr indices source start n =>
    refine moves_using (fun _ => rfl) fun a ha => moves_using (fun _ => rfl)
      fun indices _ => ?_
    refine Triple.bind (under_required _ _ hfailed) fun positions => Triple.given fun _ => ?_
    refine moves_using (fun _ => rfl) fun source _ => ?_
    refine Triple.bind (under_required _ _ hfailed) fun values => Triple.given fun _ => ?_
    exact moves_writeArray ha
      (BlockArray.since_gather a.array values positions start n (hs₀.reached_array ha))
  | reduce r arr =>
    exact moves_using (fun _ => rfl) fun a _ =>
      moves_finish (BlockArray.since_reduce r a.array)
  | summarize arr =>
    exact moves_using (fun _ => rfl) fun a _ =>
      moves_finish (BlockArray.since_summarize a.array)
  | shareBuffer id arr =>
    refine moves_using (fun _ => rfl) fun a ha => ?_
    split
    next => exact Triple.pure hstart
    next b hb =>
      refine moves_answerMade ((Buffer.since_clone (hs₀.reached_array ha b hb)).conseq
        (fun _ hs => hs) (fun _ _ hs => hs.1) fun _ hs => hs)
  | drop id => exact moves_dropArray id

/-! ## Steps -/

theorem Command.moves_run (hs₀ : s₀.Sound) (hformed : s₀.store.SlotsFormed) (c : Command)
    (hc : c.isDirect = false) :
    Triple (AtStart s₀) c.run
      (fun answer s => s₀.Moves (c.writes s₀) (c.forgets s₀) (c.filings s₀ answer s) s)
      s₀.Failed := by
  cases c with
  | allocator c => exact c.moves_run hc
  | buffer c => exact c.moves_run hs₀
  | pool c => exact c.moves_run hs₀
  | context c => exact c.moves_run hs₀
  | array c => exact c.moves_run hs₀ hformed

/-- Whether the journal was emptied before does not show. -/
theorem Moves.of_quiet {writes : Set AllocationId} {forgets : Set (PoolId × PoolKey)}
    {filings : Set (PoolId × PoolKey × AllocationId)} {s' : Session}
    (hs : Moves { s with store := { s.store with journal := [], trapped := false } } writes forgets
      filings s') : s.Moves writes forgets filings s' where
  store := ⟨⟨hs.store.made, hs.store.gone, hs.store.memory, hs.store.pools⟩, hs.store.slots,
    hs.store.kept, hs.store.forgets, hs.store.filed, hs.store.fresh, hs.store.once⟩
  arrays := hs.arrays

theorem Failed.of_quiet {s' : Session}
    (hs : Failed { s with store := { s.store with journal := [], trapped := false } } s') :
    s.Failed s' := by
  obtain ⟨store, hstore, rfl⟩ := hs
  exact ⟨store, ⟨⟨⟨hstore.made, hstore.gone, hstore.memory, hstore.pools⟩, hstore.slots,
    hstore.kept, hstore.forgets⟩, hstore.handles, hstore.poolHandles⟩, rfl⟩

/-- A command that ends well moves the session on by what it writes, forgets and files. One that
    fails harms nothing. -/
theorem Sound.step_ends (hs : s.Sound) (hformed : s.store.SlotsFormed) {c : Command}
    (hc : c.isDirect = false) :
    Ends (fun answer s' => s.Moves (c.writes s) (c.forgets s) (c.filings s answer s') s') s.Failed
      ((s.step c).1.outcome, (s.step c).2) := by
  have hend := c.moves_run hs.quiet
    ⟨hformed.known, hformed.kind, hformed.memory, hformed.apart⟩ hc _ ⟨_, rfl, rfl⟩
  revert hend
  simp only [Session.step]
  rcases StateT.run (ExceptT.run c.run) _ with ⟨outcome, next⟩
  intro hend
  change Ends _ _ (if next.store.trapped then .error .trap else outcome, next)
  split
  next => trivial
  next =>
    rcases outcome with ⟨cause | _⟩ | answer
    · exact Failed.of_quiet hend
    · trivial
    · exact Moves.of_quiet hend

theorem Sound.step_moves (hs : s.Sound) (hformed : s.store.SlotsFormed) {c : Command}
    (hc : c.isDirect = false) {answer : Answer} (hok : (s.step c).1.outcome = .ok answer) :
    s.Moves (c.writes s) (c.forgets s) (c.filings s answer (s.step c).2) (s.step c).2 := by
  have hend := hs.step_ends hformed hc
  rwa [hok] at hend

theorem Sound.step_failed (hs : s.Sound) (hformed : s.store.SlotsFormed) {c : Command}
    (hc : c.isDirect = false) {cause : Failure}
    (herr : (s.step c).1.outcome = .error (.error cause)) : s.Failed (s.step c).2 := by
  have hend := hs.step_ends hformed hc
  rwa [herr] at hend

end DeviceMemory.Session
