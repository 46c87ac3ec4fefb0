-- SUMMARY: Every command that takes memory through buffers, pools and arrays keeps a session sound, also when it fails.
import DeviceMemory.Proofs.Session.Turn

/-!
# Runs of sound sessions

One lemma for each kind of command, one case for each command. A command that
fails leaves a sound session as well, and so every session is sound that a run
of commands reaches.

Blocks that are taken from an allocator directly have no handle, so commands
that take or give such blocks are left out (`Command.isDirect`), and so is
whatever comes after a trap.
-/

namespace DeviceMemory.Session

open Turn

variable {s₀ s : Session}

theorem triple_answerBuffer (hs₀ : s₀.Distinct) (id : String) (b : Buffer) :
    Triple (During s₀ (s₀.holdings + b.holdings)) (answerBuffer id b) (fun _ => Sound) Sound := by
  refine Triple.bind (triple_ask _) fun description => ?_
  exact Triple.bind (triple_nameBuffer hs₀ id b) fun _ => Triple.pure fun _ hs => hs

/-! ## Allocators -/

/-- Whether a command moves a block between an allocator and the user directly. -/
def AllocatorCommand.isDirect : AllocatorCommand → Bool
  | .takeBlock .. => true
  | .giveBlock .. => true
  | _ => false

theorem AllocatorCommand.triple_run (hs₀ : s₀.Distinct) (c : AllocatorCommand)
    (hc : c.isDirect = false) : Triple (During s₀ s₀.holdings) c.run (fun _ => Sound) Sound := by
  have hsound : ∀ s, During s₀ s₀.holdings s → s.Sound := fun s hs => hs.sound hs₀
  cases c with
  | make id base layers =>
    refine Triple.bind (triple_change (fun _ => s₀.holdings) fun s hs => hs.addStack base layers)
      fun a => ?_
    refine Triple.bind (triple_rename fun _ => rfl) fun _ => ?_
    refine Triple.bind (triple_ask _) fun _ => Triple.pure fun s hs => ?_
    exact hs.sound ⟨hs₀.buffers, hs₀.pools, hs₀.contexts, hs₀.arrays⟩
  | usage alloc =>
    refine Triple.bind (triple_find_any alloc hsound) fun a => ?_
    exact Triple.bind (triple_ask _) fun _ => Triple.pure hsound
  | trim alloc =>
    refine Triple.bind (triple_find_any alloc hsound) fun a => ?_
    exact Triple.bind (triple_update s₀.holdings fun s hs => hs.trim a) fun _ => Triple.pure hsound
  | synchronize alloc => exact Triple.bind (triple_find_any alloc hsound) fun _ => Triple.pure hsound
  | drop id =>
    refine Triple.bind Triple.get fun _ => ?_
    refine Triple.bind (triple_rename fun _ => rfl) fun _ => Triple.pure fun s hs => ?_
    exact hs.sound ⟨hs₀.buffers, hs₀.pools, hs₀.contexts, hs₀.arrays⟩
  | takeBlock id alloc size zeroed => cases hc
  | giveBlock id alloc => cases hc
  | writeBlock id bytes =>
    refine Triple.bind (triple_find_any id hsound) fun b => ?_
    refine Triple.bind (triple_act Action.triple_checked hsound) fun b => ?_
    refine Triple.bind (triple_rename fun _ => rfl) fun _ => Triple.pure fun s hs => ?_
    exact hs.sound ⟨hs₀.buffers, hs₀.pools, hs₀.contexts, hs₀.arrays⟩
  | clearBlock id =>
    refine Triple.bind (triple_find_any id hsound) fun b => ?_
    refine Triple.bind (triple_rename fun _ => rfl) fun _ => Triple.pure fun s hs => ?_
    exact hs.sound ⟨hs₀.buffers, hs₀.pools, hs₀.contexts, hs₀.arrays⟩

/-! ## Buffers -/

/-- A buffer that the store made gets a name. -/
theorem triple_answerMade (hs₀ : s₀.Distinct) {id : String} {act : Action DeviceError Buffer}
    (hact : Triple (Holds s₀.holdings) act (fun b => Holds (s₀.holdings + b.holdings))
      (Holds s₀.holdings)) :
    Triple (During s₀ s₀.holdings) (onDevice act >>= answerBuffer id) (fun _ => Sound) Sound :=
  Triple.bind (triple_act hact fun _ hs => hs.sound hs₀) fun b => triple_answerBuffer hs₀ id b

theorem BufferCommand.triple_run (hs₀ : s₀.Distinct) (c : BufferCommand) :
    Triple (During s₀ s₀.holdings) c.run (fun _ => Sound) Sound := by
  have hsound : ∀ s, During s₀ s₀.holdings s → s.Sound := fun s hs => hs.sound hs₀
  cases c with
  | create id alloc t shape zeroed =>
    refine Triple.bind (triple_find_any alloc hsound) fun a => ?_
    exact triple_answerMade hs₀ (Buffer.triple_create a t shape zeroed)
  | allocate id alloc t shape zeroed =>
    refine Triple.bind (triple_find_any alloc hsound) fun a => ?_
    exact triple_answerMade hs₀ (Buffer.triple_allocate a t shape zeroed)
  | view id buf offset size =>
    refine triple_usingBuffer hs₀ fun b hb => ?_
    exact triple_answerMade hs₀ (Buffer.triple_view hb offset size)
  | clone id buf =>
    exact triple_usingBuffer hs₀ fun b hb => triple_answerMade hs₀ (Buffer.triple_clone hb)
  | detach id buf =>
    exact triple_usingBuffer hs₀ fun b hb => triple_answerMade hs₀ (Buffer.triple_detach hb)
  | acquire buf =>
    exact triple_usingBuffer hs₀ fun b hb => triple_finish hs₀ (Buffer.triple_acquire hb)
  | zero buf =>
    exact triple_usingBuffer hs₀ fun b hb => triple_finish hs₀ (Buffer.triple_zero hb)
  | synchronize buf => exact triple_usingBuffer hs₀ fun _ _ => Triple.pure hsound
  | describe buf =>
    exact triple_usingBuffer hs₀ fun _ _ => Triple.bind (triple_ask _) fun _ => Triple.pure hsound
  | shares buf other =>
    exact triple_usingBuffer hs₀ fun _ _ => triple_usingBuffer hs₀ fun _ _ => Triple.pure hsound
  | usage buf =>
    exact triple_usingBuffer hs₀ fun _ _ => Triple.bind (triple_ask _) fun _ => Triple.pure hsound
  | write buf bytes =>
    exact triple_usingBuffer hs₀ fun b hb => triple_finish hs₀ (Buffer.triple_write hb bytes)
  | read buf size =>
    exact triple_usingBuffer hs₀ fun b hb => triple_finish hs₀ (Buffer.triple_read hb _)
  | copy buf source =>
    refine triple_usingBuffer hs₀ fun b hb => triple_usingBuffer hs₀ fun source hsource => ?_
    exact triple_finish hs₀ (Buffer.triple_copyFrom hb hsource)
  | drop id => exact triple_dropBuffer hs₀ id
  | launch d t buf indices source n block g =>
    refine triple_usingBuffer hs₀ fun destination hdestination => ?_
    refine triple_usingBuffer hs₀ fun positions hpositions => ?_
    refine triple_usingBuffer hs₀ fun values hvalues => ?_
    exact triple_finish hs₀ (Kernel.triple_launch d t n block g hdestination hpositions hvalues)
  | reduce r t buf g =>
    exact triple_usingBuffer hs₀ fun b hb => triple_finish hs₀ (Kernel.triple_launchReduction r t g hb)

/-! ## Pools -/

theorem PoolCommand.triple_run (hs₀ : s₀.Distinct) (c : PoolCommand) :
    Triple (During s₀ s₀.holdings) c.run (fun _ => Sound) Sound := by
  have hsound : ∀ s, During s₀ s₀.holdings s → s.Sound := fun s hs => hs.sound hs₀
  cases c with
  | make id alloc retains =>
    refine Triple.bind (triple_find_any alloc hsound) fun a => ?_
    refine Triple.bind (triple_change (fun p => s₀.holdings + .pool p) fun s hs =>
      hs.addPool a retains) fun p => ?_
    exact Triple.bind (triple_namePool hs₀ id p) fun _ => Triple.pure fun _ hs => hs
  | clone id pool =>
    refine triple_usingPool hs₀ fun p hp => ?_
    refine Triple.bind (triple_update (s₀.holdings + .pool p) fun s hs =>
      hs.addPoolHandle hp) fun _ => ?_
    exact Triple.bind (triple_namePool hs₀ id p) fun _ => Triple.pure fun _ hs => hs
  | acquire id pool key t shape =>
    refine triple_usingPool hs₀ fun p hp => ?_
    refine Triple.bind (triple_act (Pool.triple_acquire hp t shape) hsound) fun result => ?_
    refine Triple.bind (triple_ask _) fun _ => ?_
    exact Triple.bind (triple_nameBuffer hs₀ id result.1) fun _ => Triple.pure fun _ hs => hs
  | describe pool keys =>
    exact triple_usingPool hs₀ fun _ _ => (triple_ask _).conseq (fun _ hs => hs)
      (fun _ s hs => hsound s hs) fun _ hs => hs
  | release pool key =>
    refine triple_usingPool hs₀ fun p hp => ?_
    exact Triple.bind (triple_change (fun _ => s₀.holdings) fun s hs => hs.release p key) fun _ =>
      Triple.pure hsound
  | clear pool =>
    refine triple_usingPool hs₀ fun p hp => ?_
    exact Triple.bind (triple_update s₀.holdings fun s hs => hs.clearPool p) fun _ =>
      Triple.pure hsound
  | drop id => exact triple_dropPool hs₀ id

/-! ## Contexts -/

/-- A context that was set up is described and gets a name. -/
theorem triple_nameSetUp (hs₀ : s₀.Distinct) (id : String) (c : Context) :
    Triple (During s₀ (s₀.holdings + c.holdings))
      (describeContext c >>= fun description => nameContext id c >>= fun _ => pure description)
      (fun _ => Sound) Sound := by
  refine Triple.bind (triple_ask _) fun description => ?_
  exact Triple.bind (triple_nameContext hs₀ id c) fun _ => Triple.pure fun _ hs => hs

theorem ContextCommand.triple_run (hs₀ : s₀.Distinct) (c : ContextCommand) :
    Triple (During s₀ s₀.holdings) c.run (fun _ => Sound) Sound := by
  have hsound : ∀ s, During s₀ s₀.holdings s → s.Sound := fun s hs => hs.sound hs₀
  cases c with
  | makeRegistry id =>
    refine Triple.bind (triple_rename fun _ => rfl) fun _ => Triple.pure fun s hs => ?_
    exact hs.sound ⟨hs₀.buffers, hs₀.pools, hs₀.contexts, hs₀.arrays⟩
  | allocator id registry device capacity =>
    refine Triple.bind (triple_find_any registry hsound) fun r => ?_
    refine Triple.bind (triple_ofExcept _ hsound) fun device => ?_
    refine Triple.bind (triple_act (r.triple_get device capacity) hsound) fun result => ?_
    refine Triple.bind (triple_rename fun _ => rfl) fun _ => ?_
    refine Triple.bind Triple.get fun _ => ?_
    refine Triple.bind (triple_rename fun _ => rfl) fun _ => ?_
    refine Triple.bind (triple_ask _) fun _ => Triple.pure fun s hs => ?_
    exact hs.sound ⟨hs₀.buffers, hs₀.pools, hs₀.contexts, hs₀.arrays⟩
  | sharedAllocator device =>
    refine Triple.bind (triple_ofExcept _ hsound) fun device => ?_
    refine Triple.bind Triple.get fun now => ?_
    refine Triple.bind (triple_act (now.shared.triple_get device _) hsound) fun result => ?_
    refine Triple.bind (triple_act (result.2.triple_get .cpu _) hsound) fun host => ?_
    refine Triple.bind (triple_rename fun _ => rfl) fun _ => ?_
    refine Triple.bind (triple_ask _) fun _ => Triple.pure fun s hs => ?_
    exact hs.sound ⟨hs₀.buffers, hs₀.pools, hs₀.contexts, hs₀.arrays⟩
  | setUp id settings registry =>
    refine Triple.bind (triple_ofExcept _ hsound) fun config => ?_
    cases registry with
    | some name =>
      refine Triple.bind (triple_find_any name hsound) fun r => ?_
      refine Triple.bind (triple_act (Context.triple_setUp r config) hsound) fun result => ?_
      refine Triple.bind (triple_rename fun _ => rfl) fun _ => ?_
      have hs₁ : { s₀ with registries := s₀.registries.put name result.2 }.Distinct :=
        ⟨hs₀.buffers, hs₀.pools, hs₀.contexts, hs₀.arrays⟩
      exact Triple.via (fun c => During _ (s₀.holdings + c.holdings))
        (Triple.pure fun _ hs => hs) fun c => triple_nameSetUp hs₁ id c
    | none =>
      refine Triple.bind Triple.get fun now => ?_
      refine Triple.bind (triple_act (Context.triple_setUp now.shared config) hsound)
        fun result => ?_
      refine Triple.bind (triple_rename fun _ => rfl) fun _ => ?_
      have hs₁ : { s₀ with shared := result.2 }.Distinct :=
        ⟨hs₀.buffers, hs₀.pools, hs₀.contexts, hs₀.arrays⟩
      exact Triple.via (fun c => During _ (s₀.holdings + c.holdings))
        (Triple.pure fun _ hs => hs) fun c => triple_nameSetUp hs₁ id c
  | describe ctx =>
    refine Triple.bind (triple_find_any ctx hsound) fun c => ?_
    exact (triple_ask _).conseq (fun _ hs => hs) (fun _ s hs => hsound s hs) fun _ hs => hs
  | shareAllocator id ctx =>
    refine Triple.bind (triple_find_any ctx hsound) fun c => ?_
    refine Triple.bind (triple_rename fun _ => rfl) fun _ => Triple.pure fun s hs => ?_
    exact hs.sound ⟨hs₀.buffers, hs₀.pools, hs₀.contexts, hs₀.arrays⟩
  | sharePool id ctx =>
    refine triple_using hs₀ (fun _ => rfl) fun c hc => ?_
    refine Triple.bind (triple_update (s₀.holdings + .pool c.pool) fun s hs =>
      hs.addPoolHandle (mem_pools_of_context hs₀ hc)) fun _ => ?_
    exact Triple.bind (triple_namePool hs₀ id c.pool) fun _ => Triple.pure fun _ hs => hs
  | tearDown ctx =>
    refine triple_using hs₀ (fun _ => rfl) fun c hc => ?_
    refine Triple.bind (triple_change (fun result => s₀.besideContext ctx + result.2.holdings) ?_)
      fun result => ?_
    · intro s hs
      rw [holdings_context hs₀ hc] at hs
      exact hs.tearDown c
    · exact Triple.bind (triple_updateContext hs₀ ctx result.2) fun _ => Triple.pure fun _ hs => hs
  | drop id => exact triple_dropContext hs₀ id

/-! ## Arrays -/

/-- An array that the store made gets a name. -/
theorem triple_nameMade (hs₀ : s₀.Distinct) {id : String} {t : ScalarType} {e : ElementShape}
    {act : Action ArrayError (BlockArray t e)}
    (hact : Triple (Holds s₀.holdings) act (fun a => Holds (s₀.holdings + a.holdings))
      (Holds s₀.holdings)) :
    Triple (During s₀ s₀.holdings)
      (onArray act >>= fun a => nameArray id ⟨t, e, a⟩ >>= fun _ => pure Answer.nothing)
      (fun _ => Sound) Sound := by
  refine Triple.bind (triple_act hact fun _ hs => hs.sound hs₀) fun a => ?_
  exact Triple.bind (triple_nameArray hs₀ id ⟨t, e, a⟩) fun _ => Triple.pure fun _ hs => hs

theorem triple_readLiterals (hs₀ : s₀.Distinct) (t : ScalarType) (name : String)
    (values : List Literal) :
    Triple (During s₀ s₀.holdings) (readLiterals t name values) (fun _ => During s₀ s₀.holdings)
      Sound :=
  (triple_required name _ fun _ hs => hs.sound hs₀).conseq (fun _ hs => hs) (fun _ _ hs => hs.1)
    fun _ hs => hs

theorem triple_describeArray (hs₀ : s₀.Distinct) {t : ScalarType} {e : ElementShape}
    (a : BlockArray t e) :
    Triple (During s₀ s₀.holdings) (describeArray a) (fun _ => Sound) Sound := by
  have hsound : ∀ s, During s₀ s₀.holdings s → s.Sound := fun s hs => hs.sound hs₀
  refine Triple.bind (triple_act (BlockArray.triple_numel a) hsound) fun numel => ?_
  exact triple_finish hs₀ Action.triple_checked

theorem ArrayCommand.triple_run (hs₀ : s₀.Distinct) (c : ArrayCommand) :
    Triple (During s₀ s₀.holdings) c.run (fun _ => Sound) Sound := by
  have hsound : ∀ s, During s₀ s₀.holdings s → s.Sound := fun s hs => hs.sound hs₀
  cases c with
  | new id t e alloc len =>
    refine Triple.bind (triple_find_any alloc hsound) fun a => triple_nameMade hs₀ ?_
    exact (BlockArray.triple_new e t a len).conseq (fun _ hs => hs) (fun _ _ hs => hs.1)
      fun _ hs => hs
  | fromHost id t e alloc values =>
    refine Triple.bind (triple_find_any alloc hsound) fun a => ?_
    refine Triple.bind (triple_readLiterals hs₀ t id values) fun values => ?_
    exact triple_nameMade hs₀ (BlockArray.triple_fromHost e t a values)
  | shared id t e pool key len =>
    refine triple_usingPool hs₀ fun p hp => ?_
    exact triple_nameMade hs₀ (BlockArray.triple_shared hp e t key len)
  | withId id t e pool key len =>
    refine triple_usingPool hs₀ fun p hp => ?_
    exact triple_nameMade hs₀ (BlockArray.triple_withId hp e t key len)
  | inContext id t e ctx len =>
    refine Triple.bind (triple_find_any ctx hsound) fun c => ?_
    exact triple_nameMade hs₀ (BlockArray.triple_inContext e t c len)
  | sharedIn id t e ctx key len =>
    refine triple_using hs₀ (fun _ => rfl) fun c hc => ?_
    exact triple_nameMade hs₀
      (BlockArray.triple_sharedIn (mem_pools_of_context hs₀ hc) e t key len)
  | setGrid arr g =>
    refine triple_using hs₀ (fun _ => rfl) fun a ha => ?_
    refine Triple.via (fun _ => Sound) ?_ fun _ => Triple.pure fun _ hs => hs
    rw [holdings_array hs₀ ha]
    exact triple_updateArray hs₀ arr ⟨a.t, a.e, a.array.withGrid g⟩
  | describe arr =>
    exact Triple.bind (triple_find_any arr hsound) fun a => triple_describeArray hs₀ a.array
  | acquire arr =>
    refine triple_using hs₀ (fun _ => rfl) fun a ha => ?_
    have hheld : s₀.holdings = s₀.besideArray arr + a.array.holdings := holdings_array hs₀ ha
    rw [hheld]
    refine Triple.bind (triple_act (BlockArray.triple_acquire a.array) ?_) fun result => ?_
    · rw [← hheld]
      exact hsound
    · exact Triple.bind (triple_updateArray hs₀ arr ⟨a.t, a.e, result.2⟩) fun _ =>
        Triple.pure fun _ hs => hs
  | zero arr =>
    exact triple_usingArray hs₀ fun a ha => triple_finish hs₀ (BlockArray.triple_zero ha)
  | toHost arr =>
    exact triple_usingArray hs₀ fun a ha => triple_finish hs₀ (BlockArray.triple_toHost ha)
  | ofHost arr values =>
    refine triple_usingArray hs₀ fun a ha => ?_
    refine Triple.bind (triple_readLiterals hs₀ a.t arr values) fun values => ?_
    exact triple_finish hs₀ (BlockArray.triple_ofHost ha values)
  | copy arr source index count =>
    refine triple_usingArray hs₀ fun a ha => triple_usingArray hs₀ fun source hsource => ?_
    refine Triple.bind (triple_required _ _ hsound) fun b => Triple.given fun hb => ?_
    exact triple_finish hs₀
      (BlockArray.triple_copyFrom ha (heldIn_of_ofType? hb hsource) index count)
  | scatter arr indices source n =>
    refine triple_usingArray hs₀ fun a ha => triple_usingArray hs₀ fun indices hindices => ?_
    refine Triple.bind (triple_required _ _ hsound) fun positions => Triple.given fun hp => ?_
    refine triple_usingArray hs₀ fun source hsource => ?_
    refine Triple.bind (triple_required _ _ hsound) fun values => Triple.given fun hv => ?_
    exact triple_finish hs₀
      (BlockArray.triple_scatter ha (heldIn_of_as? hp hindices) (heldIn_of_as? hv hsource) n)
  | gather arr indices source start n =>
    refine triple_usingArray hs₀ fun a ha => triple_usingArray hs₀ fun indices hindices => ?_
    refine Triple.bind (triple_required _ _ hsound) fun positions => Triple.given fun hp => ?_
    refine triple_usingArray hs₀ fun source hsource => ?_
    refine Triple.bind (triple_required _ _ hsound) fun values => Triple.given fun hv => ?_
    exact triple_finish hs₀
      (BlockArray.triple_gather ha (heldIn_of_as? hp hindices) (heldIn_of_as? hv hsource) start n)
  | reduce r arr =>
    exact triple_usingArray hs₀ fun a ha => triple_finish hs₀ (BlockArray.triple_reduce ha r)
  | summarize arr =>
    exact triple_usingArray hs₀ fun a ha => triple_finish hs₀ (BlockArray.triple_summarize ha)
  | shareBuffer id arr =>
    refine triple_usingArray hs₀ fun a ha => ?_
    split
    next => exact Triple.pure hsound
    next b hb => exact triple_answerMade hs₀ (Buffer.triple_clone (ha b hb))
  | drop id => exact triple_dropArray hs₀ id

/-! ## Runs -/

/-- Whether the command is one that moves a block directly. -/
def Command.isDirect : Command → Bool
  | .allocator c => c.isDirect
  | _ => false

/-- Whether the command stopped at a broken precondition. -/
def Reply.isTrap (r : Reply) : Bool :=
  match r.outcome with
  | .error .trap => true
  | _ => false

theorem Command.triple_run (c : Command) (hc : c.isDirect = false) :
    Triple Sound c.run (fun _ => Sound) Sound := by
  intro s hs
  cases c with
  | allocator c => exact c.triple_run hs.distinct hc s hs.during
  | buffer c => exact c.triple_run hs.distinct s hs.during
  | pool c => exact c.triple_run hs.distinct s hs.during
  | context c => exact c.triple_run hs.distinct s hs.during
  | array c => exact c.triple_run hs.distinct s hs.during

/-- The journal and the trap that a store kept are no part of its balance. -/
theorem Sound.quiet (hs : s.Sound) :
    { s with store := { s.store with journal := [], trapped := false } }.Sound := by
  obtain ⟨hdistinct, hbalanced⟩ := hs
  refine ⟨⟨hdistinct.buffers, hdistinct.pools, hdistinct.contexts, hdistinct.arrays⟩, ?_⟩
  exact ⟨hbalanced.handles, hbalanced.poolHandles, hbalanced.deserted, hbalanced.keys,
    hbalanced.unused, hbalanced.sizes, rfl, hbalanced.ledger⟩

/-- A step leaves a sound session whether its command succeeds or fails. -/
theorem Sound.step {c : Command} (hs : s.Sound) (hc : c.isDirect = false)
    (htrap : (s.step c).1.isTrap = false) : (s.step c).2.Sound := by
  have hend := c.triple_run hc _ hs.quiet
  revert hend htrap
  simp only [Session.step]
  rcases StateT.run (ExceptT.run c.run) _ with ⟨(fault | answer), next⟩
  · cases fault with
    | error cause => exact fun _ hend => hend
    | trap =>
      intro htrap
      simp only [ite_self] at htrap
      cases htrap
  · exact fun _ hend => hend

/-- The sessions that commands reach from the empty one, each ending with a result or
    an error. -/
inductive Reachable : Session → Prop where
  | empty : Reachable .empty
  | step {s : Session} (c : Command) (hs : Reachable s) (hc : c.isDirect = false)
      (htrap : (s.step c).1.isTrap = false) : Reachable (s.step c).2

theorem Reachable.sound (hs : s.Reachable) : s.Sound := by
  induction hs with
  | empty => exact sound_empty
  | step c hs hc htrap ih => exact ih.step hc htrap

/-- Whether each command of a list ends with a result or an error and leaves blocks to
    the buffers. -/
def isClean (s : Session) : List Command → Bool
  | [] => true
  | c :: commands => !c.isDirect && !(s.step c).1.isTrap && (s.step c).2.isClean commands

theorem isClean_cons {c : Command} {commands : List Command} :
    s.isClean (c :: commands) = true ↔
      c.isDirect = false ∧ (s.step c).1.isTrap = false ∧ (s.step c).2.isClean commands = true := by
  simp only [isClean, Bool.and_eq_true, Bool.not_eq_eq_eq_not, Bool.not_true, and_assoc]

theorem Reachable.after {commands : List Command} (hs : s.Reachable)
    (hclean : s.isClean commands = true) : (s.after commands).Reachable := by
  induction commands generalizing s with
  | nil => exact hs
  | cons c commands ih =>
    obtain ⟨hc, htrap, hclean⟩ := isClean_cons.mp hclean
    exact ih (hs.step c hc htrap) hclean

end DeviceMemory.Session
