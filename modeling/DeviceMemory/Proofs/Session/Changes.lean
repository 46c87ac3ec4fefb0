-- SUMMARY: What a command may overwrite and which tables and names it leaves alone, from any session and however it ends.
import DeviceMemory.Proofs.Array.Changes
import DeviceMemory.Proofs.Session.Moves

/-!
# What commands change

Every command leads the store on by elementary changes, and overwrites nothing if
it fails with a cause (`step_leads`). Commands other than those on contexts leave
registries and contexts alone (`devices_step`), and all commands leave the names
of buffers and arrays that they do not mention (`lookup_buffers_step`,
`lookup_arrays_step`). None of this asks anything of the session: blocks may have
been taken from an allocator directly, and commands may have trapped before.
-/

namespace DeviceMemory

/-! ## Names that commands give, take away and put back -/

namespace Session

/-- The name that a command gives to a buffer or takes from one. -/
def BufferCommand.name? : BufferCommand → Option String
  | .create id _ _ _ _ | .allocate id _ _ _ _ | .view id _ _ _ | .clone id _ | .detach id _
  | .drop id => some id
  | _ => none

/-- The name that a command gives to an array or takes from one, and nothing if it puts the
    array back under its name. -/
def ArrayCommand.name? : ArrayCommand → Option String
  | .new id _ _ _ _ | .fromHost id _ _ _ _ | .shared id _ _ _ _ _ | .withId id _ _ _ _ _
  | .inContext id _ _ _ _ | .sharedIn id _ _ _ _ _ | .drop id => some id
  | _ => none

/-- The name under which a command puts an array back. -/
def ArrayCommand.puts? : ArrayCommand → Option String
  | .setGrid arr _ | .acquire arr => some arr
  | _ => none

/-- The name that a command gives to a buffer or takes from one. -/
def Command.buffer? : Command → Option String
  | .buffer c => c.name?
  | .pool (.acquire id _ _ _ _) => some id
  | .array (.shareBuffer id _) => some id
  | _ => none

/-- The name that a command gives to an array or takes from one. -/
def Command.array? : Command → Option String
  | .array c => c.name?
  | _ => none

/-- The name under which a command puts an array back. -/
def Command.puts? : Command → Option String
  | .array c => c.puts?
  | _ => none

end Session

theorem Names.lookup_erase_of_ne {α : Type} {name other : String} (hne : other ≠ name)
    (names : Names α) : (names.erase name).lookup other = names.lookup other :=
  Entries.lookup_filter_of_ne hne ..

/-- What has another name. -/
def Names.others {α : Type} (name? : Option String) (names : Names α) (other : String) :
    Option α :=
  if name? = some other then none else names.lookup other

@[simp] theorem Names.others_put {α : Type} (name : String) (a : α) (names : Names α) :
    (names.put name a).others (some name) = names.others (some name) := by
  funext other
  unfold others
  split
  next => rfl
  next hne => exact Names.lookup_put_of_ne (fun heq => hne (congrArg some heq.symm)) a names

@[simp] theorem Names.others_erase {α : Type} (name : String) (names : Names α) :
    (names.erase name).others (some name) = names.others (some name) := by
  funext other
  unfold others
  split
  next => rfl
  next hne => exact Names.lookup_erase_of_ne (fun heq => hne (congrArg some heq.symm)) names

namespace Session

open Turn

variable {α β γ ε : Type} {s : Session} {kept : Session → γ} {written : Set AllocationId}
  {m : Turn α} {next : α → Turn β}

/-- A session that the store of another one leads to, with the same `kept`. -/
structure Leads (kept : Session → γ) (s : Session) (written : Set AllocationId) (s' : Session) :
    Prop where
  store : s.store.Leads written s'.store
  kept : kept s' = kept s

namespace Turn

/-- In a session the turn overwrites at most allocations in `written`, and none if it fails with
    a cause. -/
def LeadsAt (kept : Session → γ) (written : Set AllocationId) (m : Turn α) (s : Session) : Prop :=
  Session.Leads kept s (writtenBy written (StateT.run (ExceptT.run m) s).1)
    (StateT.run (ExceptT.run m) s).2

/-- The same in all sessions. -/
def Leads (kept : Session → γ) (written : Set AllocationId) (m : Turn α) : Prop :=
  ∀ s, m.LeadsAt kept written s

/-! ## Rules -/

theorem leads_stay {outcome : Except (Fault Failure) α} {s : Session} :
    Session.Leads kept s (writtenBy written outcome) s :=
  ⟨.refl _, rfl⟩

theorem leads_pure (a : α) : (pure a : Turn α).Leads kept written := fun _ => leads_stay

theorem leads_get : (MonadState.get : Turn Session).Leads kept written := fun _ => leads_stay

theorem leads_required (name : String) (value : Option α) :
    (required name value).Leads kept written := by
  cases value with
  | none => exact fun _ => leads_stay
  | some a => exact leads_pure a

theorem leads_ofExcept (result : Except DeviceError α) :
    (ofExcept result).Leads kept written := by
  cases result with
  | error cause => exact fun _ => leads_stay
  | ok a => exact leads_pure a

theorem leads_modify {f : Session → Session} (hstore : ∀ s : Session, s.store.Leads ∅ (f s).store)
    (hkept : ∀ s, kept (f s) = kept s) : (modify f : Turn PUnit).Leads kept written :=
  fun s => ⟨(hstore s).mono (Set.empty_subset _), hkept s⟩

theorem LeadsAt.bind (h : m.LeadsAt kept ∅ s) (hnext : ∀ a, (next a).Leads kept written) :
    (m >>= next).LeadsAt kept written s := by
  have hm : Session.Leads kept s ∅ (StateT.run (ExceptT.run m) s).2 :=
    ⟨h.store.mono (writtenBy_subset ..), h.kept⟩
  rcases hrun : StateT.run (ExceptT.run m) s with ⟨fault | a, s₁⟩ <;> rw [hrun] at hm
  · rw [LeadsAt, run_bind_of_error hrun]
    exact ⟨hm.store.mono (Set.empty_subset _), hm.kept⟩
  · rw [LeadsAt, run_bind_of_ok hrun]
    exact ⟨(hm.store.mono (Set.empty_subset _)).trans (hnext a s₁).store,
      (hnext a s₁).kept.trans hm.kept⟩

theorem Leads.bind (h : m.Leads kept ∅) (hnext : ∀ a, (next a).Leads kept written) :
    (m >>= next).Leads kept written :=
  fun s => (h s).bind hnext

/-- A turn that ends with an answer to what was written. -/
theorem Leads.finish (h : m.Leads kept written) (answer : α → β) :
    (m >>= fun a => pure (answer a)).Leads kept written := by
  intro s
  have hm := h s
  rcases hrun : StateT.run (ExceptT.run m) s with ⟨fault | a, s₁⟩
  · rw [LeadsAt, run_bind_of_error hrun]
    rw [LeadsAt, hrun] at hm
    cases fault <;> exact hm
  · rw [LeadsAt, run_bind_of_ok hrun]
    rw [LeadsAt, hrun] at hm
    exact hm

theorem leads_find (table : Session → Names α) (name : String) :
    (find table name).Leads kept written :=
  leads_get.bind fun _ => leads_required _ _

/-- What is known of a value that has to be there. -/
theorem leadsAt_required {name : String} {value : Option α}
    (hnext : ∀ a, value = some a → (next a).LeadsAt kept written s) :
    (required name value >>= next).LeadsAt kept written s := by
  cases hvalue : value with
  | none => exact leads_stay
  | some a => exact hnext a hvalue

/-- What is known of an object of a table. -/
theorem leadsAt_using {table : Session → Names α} {name : String}
    (hnext : ∀ a, (table s).lookup name = some a → (next a).LeadsAt kept written s) :
    (find table name >>= next).LeadsAt kept written s :=
  leadsAt_required hnext

theorem leads_ask (f : Store → α) : (ask f).Leads kept written :=
  leads_get.bind fun _ => leads_pure _

section Store

variable (hkept : ∀ (s : Session) (store : Store), kept { s with store := store } = kept s)

include hkept

theorem leads_act {cause : ε → Failure} {action : Action ε α} (h : action.Leads written) :
    (act cause action).Leads kept written :=
  fun s => ⟨h.mapError cause s.store, hkept s _⟩

theorem leads_update {f : Store → Store} (hf : ∀ s : Store, s.Leads ∅ (f s)) :
    (onDevice (Action.update f)).Leads kept written :=
  leads_act hkept (Action.leads_update hf)

theorem leads_change {f : Store → α × Store} (hf : ∀ s : Store, s.Leads ∅ (f s).2) :
    (change f).Leads kept written :=
  leads_act hkept (Action.leads_total hf)

end Store

end Turn

/-! ## Names -/

theorem leads_dropOld {drop : α → Store → Store} (hdrop : ∀ a (s : Store), s.Leads ∅ (drop a s))
    (old : Option α) (s : Store) : s.Leads ∅ (dropOld drop old s) := by
  cases old with
  | none => exact .refl s
  | some a => exact hdrop a s

/-- The tables that only commands on contexts change. -/
def devices (s : Session) : Names Registry × Registry × Names Context :=
  (s.registries, s.shared, s.contexts)

/-- The buffers and the arrays that have other names. -/
def others (buffer? array? : Option String) (s : Session) :
    (String → Option Buffer) × (String → Option AnyArray) :=
  (s.buffers.others buffer?, s.arrays.others array?)

/-- What a command that is not one on contexts leaves beside a buffer and an array. -/
def beside (buffer? array? : Option String) (s : Session) :
    (Names Registry × Registry × Names Context) ×
      (String → Option Buffer) × (String → Option AnyArray) :=
  (s.devices, s.others buffer? array?)

variable {array? buffer? : Option String}

theorem leads_nameBuffer (id : String) (b : Buffer) :
    (nameBuffer id b).Leads (beside (some id) array?) written :=
  leads_modify
    (fun s => leads_dropOld (fun (b : Buffer) s => .dropHandle s b.allocation) _ s.store)
    fun _ => by simp [beside, devices, others]

theorem leads_namePool (hkept : ∀ (s : Session) (store : Store) (pools : Names PoolId),
      kept { s with store := store, pools := pools } = kept s) (id : String) (p : PoolId) :
    (namePool id p).Leads kept written :=
  leads_modify (fun s => leads_dropOld (fun p s => .dropPoolHandle s p) _ s.store)
    fun _ => hkept ..

theorem leads_nameArray (id : String) (a : AnyArray) :
    (nameArray id a).Leads (beside buffer? (some id)) written :=
  leads_modify (fun s => leads_dropOld (fun a s => a.array.leads_drop s) _ s.store)
    fun _ => by simp [beside, devices, others]

theorem leads_answerBuffer (id : String) (b : Buffer) :
    (answerBuffer id b).Leads (beside (some id) array?) written :=
  (leads_ask _).bind fun _ => (leads_nameBuffer id b).finish _

/-! ## Commands -/

theorem AllocatorCommand.leads_run (c : AllocatorCommand) :
    c.run.Leads (beside none none) written := by
  have hnames {f : Session → Session} (hf : ∀ s, (f s).store = s.store)
      (hkept : ∀ s, beside none none (f s) = beside none none s) :
      (modify f : Turn PUnit).Leads (beside none none) (∅ : Set AllocationId) :=
    leads_modify (fun s => hf s ▸ .refl _) hkept
  cases c with
  | make id base layers =>
    refine (leads_change (fun _ _ => rfl) fun _ => .of_change (.stack ..)).bind fun a => ?_
    exact Leads.bind (hnames (fun _ => rfl) fun _ => rfl) fun _ => (leads_ask _).finish _
  | usage alloc => exact (leads_find _ _).bind fun a => (leads_ask _).finish _
  | trim alloc =>
    refine (leads_find _ _).bind fun a => Leads.finish ?_ _
    exact leads_update (fun _ _ => rfl) fun s => .trim s a
  | synchronize alloc => exact (leads_find _ _).finish _
  | drop id =>
    exact leads_get.bind fun _ => Leads.bind (hnames (fun _ => rfl) fun _ => rfl) fun _ =>
      leads_pure _
  | takeBlock id alloc size zeroed =>
    refine (leads_find _ _).bind fun a => ?_
    refine (leads_act (fun _ _ => rfl) (Action.leads_of fun s => .alloc s a size zeroed)).bind
      fun b => ?_
    exact Leads.bind (hnames (fun _ => rfl) fun _ => rfl) fun _ => leads_pure _
  | writeBlock id bytes =>
    refine (leads_find _ _).bind fun b => ?_
    refine (leads_act (fun _ _ => rfl) (Action.leads_checked _)).bind fun b => ?_
    exact Leads.bind (hnames (fun _ => rfl) fun _ => rfl) fun _ => leads_pure _
  | clearBlock id =>
    refine (leads_find _ _).bind fun b => ?_
    exact Leads.bind (hnames (fun _ => rfl) fun _ => rfl) fun _ => leads_pure _
  | giveBlock id alloc =>
    refine (leads_find _ _).bind fun b => (leads_find _ _).bind fun a => ?_
    refine Leads.bind (hnames (fun _ => rfl) fun _ => rfl) fun _ => Leads.finish ?_ _
    exact leads_update (fun _ _ => rfl) fun s => .free s a b

/-- An action on a buffer with a name, which it may overwrite. -/
theorem leadsAt_write {name : String} {action : Buffer → Action DeviceError Unit}
    (haction : ∀ b, (action b).Leads {b.allocation}) :
    (find buffers name >>= fun b => onDevice (action b) >>= fun _ => pure Answer.nothing).LeadsAt
      (beside none none) (s.written name) s := by
  refine leadsAt_using fun b hb => ?_
  have hle : {b.allocation} ⊆ s.written name := by simp [written, hb]
  exact (leads_act (fun _ _ => rfl) ((haction b).mono hle)).finish _ s

theorem BufferCommand.leadsAt_run (c : BufferCommand) (s : Session) :
    c.run.LeadsAt (beside c.name? none) ((Command.buffer c).writes s) s := by
  -- a buffer that is made gets a name
  have hmade {id : String} {action : Action DeviceError Buffer} (h : action.Leads ∅) :
      (onDevice action >>= answerBuffer id).Leads (beside (some id) none) ∅ :=
    (leads_act (fun _ _ => rfl) h).bind fun b => leads_answerBuffer id b
  cases c with
  | create id alloc t shape zeroed =>
    exact (leads_find _ _).bind (fun a => hmade (Buffer.leads_create a t shape zeroed)) s
  | allocate id alloc t shape zeroed =>
    exact (leads_find _ _).bind (fun a => hmade (Buffer.leads_allocate a t shape zeroed)) s
  | view id buf offset size =>
    exact (leads_find _ _).bind (fun b => hmade (Buffer.leads_view b offset size)) s
  | clone id buf => exact (leads_find _ _).bind (fun b => hmade (Buffer.leads_clone b)) s
  | detach id buf => exact (leads_find _ _).bind (fun b => hmade (Buffer.leads_detach b)) s
  | acquire buf =>
    refine (leads_find _ _).bind (fun b => Leads.finish ?_ _) s
    exact leads_act (fun _ _ => rfl) (Buffer.leads_acquire b)
  | zero buf => exact leadsAt_write Buffer.leads_zero
  | synchronize buf => exact (leads_find _ _).finish _ s
  | describe buf =>
    exact (leads_find _ _).bind (fun b => (leads_ask _).finish _) s
  | shares buf other =>
    exact (leads_find _ _).bind (fun b => (leads_find _ _).finish _) s
  | usage buf => exact (leads_find _ _).bind (fun b => (leads_ask _).finish _) s
  | write buf bytes => exact leadsAt_write fun b => b.leads_write bytes
  | read buf size =>
    refine (leads_find _ _).bind (fun b => Leads.finish ?_ _) s
    exact leads_act (fun _ _ => rfl) (Buffer.leads_read b _)
  | copy buf source =>
    refine leadsAt_using fun b hb => leadsAt_using fun source _ => ?_
    have hle : {b.allocation} ⊆ s.written buf := by simp [written, hb]
    exact (leads_act (fun _ _ => rfl) ((Buffer.leads_copyFrom b source).mono hle)).finish _ s
  | drop id =>
    refine leads_get.bind (fun _ => ?_) s
    dsimp only
    refine Leads.bind (leads_modify (fun s => ?_) fun _ => ?_) fun _ => leads_pure _
    · exact leads_dropOld (fun (b : Buffer) s => .dropHandle s b.allocation) _ s.store
    · simp [beside, devices, others, BufferCommand.name?]
  | launch d t buf indices source n block g =>
    refine leadsAt_using fun b hb => leadsAt_using fun positions _ =>
      leadsAt_using fun values _ => ?_
    have hle : {b.allocation} ⊆ s.written buf := by simp [written, hb]
    have hlaunch := Kernel.leads_launch d t b positions values n block g
    exact (leads_act (fun _ _ => rfl) (hlaunch.mono hle)).finish _ s
  | reduce r t buf g =>
    refine (leads_find _ _).bind (fun b => Leads.finish ?_ _) s
    exact leads_act (fun _ _ => rfl) (Kernel.leads_launchReduction r t b g)

theorem PoolCommand.leads_run (c : PoolCommand) :
    c.run.Leads (beside (Command.pool c).buffer? none) written := by
  cases c with
  | make id alloc retains =>
    refine (leads_find _ _).bind fun a => ?_
    refine (leads_change (fun _ _ => rfl) fun s => .aside ..).bind fun p => ?_
    exact (leads_namePool (fun _ _ _ => rfl) id p).finish _
  | clone id pool =>
    refine (leads_find _ _).bind fun p => ?_
    refine (leads_update (fun _ _ => rfl) fun s => .aside ..).bind fun _ => ?_
    exact (leads_namePool (fun _ _ _ => rfl) id p).finish _
  | acquire id pool key t shape =>
    refine (leads_find _ _).bind fun p => ?_
    refine (leads_act (fun _ _ => rfl) (Pool.leads_acquire p key t shape)).bind fun made => ?_
    exact (leads_ask _).bind fun _ => (leads_nameBuffer id made.1).finish _
  | describe pool keys => exact (leads_find _ _).bind fun p => leads_ask _
  | release pool key =>
    refine (leads_find _ _).bind fun p => Leads.finish ?_ _
    exact leads_change (fun _ _ => rfl) fun s => .release s p key
  | clear pool =>
    refine (leads_find _ _).bind fun p => Leads.finish ?_ _
    exact leads_update (fun _ _ => rfl) fun s => .clearPool s p
  | drop id =>
    refine leads_get.bind fun _ => ?_
    dsimp only
    refine Leads.bind (leads_modify (fun s => ?_) fun _ => rfl) fun _ => leads_pure _
    exact leads_dropOld (fun p s => .dropPoolHandle s p) _ s.store

theorem ContextCommand.leads_run (c : ContextCommand) :
    c.run.Leads (others none none) written := by
  have hnames {f : Session → Session} (hf : ∀ s, (f s).store = s.store)
      (hkept : ∀ s, others none none (f s) = others none none s) :
      (modify f : Turn PUnit).Leads (others none none) (∅ : Set AllocationId) :=
    leads_modify (fun s => hf s ▸ .refl _) hkept
  -- a context that was set up is described and gets a name
  have hsetUp (id : String) (c : Context) :
      (describeContext c >>= fun description => nameContext id c >>= fun _ =>
        pure description).Leads (others none none) written := by
    refine (leads_ask _).bind fun _ => ?_
    refine Leads.bind (leads_modify (fun s => ?_) fun _ => rfl) fun _ => leads_pure _
    exact leads_dropOld (fun c s => .dropContext s c) _ s.store
  cases c with
  | makeRegistry id => exact Leads.bind (hnames (fun _ => rfl) fun _ => rfl) fun _ => leads_pure _
  | allocator id registry device capacity =>
    refine (leads_find _ _).bind fun r => (leads_ofExcept _).bind fun device => ?_
    refine (leads_act (fun _ _ => rfl) (r.leads_get device capacity)).bind fun made => ?_
    refine Leads.bind (hnames (fun _ => rfl) fun _ => rfl) fun _ => leads_get.bind fun _ => ?_
    exact Leads.bind (hnames (fun _ => rfl) fun _ => rfl) fun _ => (leads_ask _).finish _
  | sharedAllocator device =>
    refine (leads_ofExcept _).bind fun device => leads_get.bind fun now => ?_
    refine (leads_act (fun _ _ => rfl) (now.shared.leads_get device _)).bind fun made => ?_
    refine (leads_act (fun _ _ => rfl) (made.2.leads_get .cpu _)).bind fun host => ?_
    exact Leads.bind (hnames (fun _ => rfl) fun _ => rfl) fun _ => (leads_ask _).finish _
  | setUp id settings registry =>
    refine (leads_ofExcept _).bind fun config => ?_
    cases registry with
    | some name =>
      refine (leads_find _ _).bind fun r => ?_
      refine (leads_act (fun _ _ => rfl) (Context.leads_setUp r config)).bind fun made => ?_
      exact Leads.bind (hnames (fun _ => rfl) fun _ => rfl) fun _ => hsetUp id made.1
    | none =>
      refine leads_get.bind fun now => ?_
      refine (leads_act (fun _ _ => rfl) (Context.leads_setUp now.shared config)).bind
        fun made => ?_
      exact Leads.bind (hnames (fun _ => rfl) fun _ => rfl) fun _ => hsetUp id made.1
  | describe ctx => exact (leads_find _ _).bind fun c => leads_ask _
  | shareAllocator id ctx =>
    exact (leads_find _ _).bind fun c => Leads.bind (hnames (fun _ => rfl) fun _ => rfl) fun _ =>
      leads_pure _
  | sharePool id ctx =>
    refine (leads_find _ _).bind fun c => ?_
    refine (leads_update (fun _ _ => rfl) fun s => .aside ..).bind fun _ => ?_
    exact (leads_namePool (fun _ _ _ => rfl) id c.pool).finish _
  | tearDown ctx =>
    refine (leads_find _ _).bind fun c => ?_
    refine (leads_change (fun _ _ => rfl) fun s => .tearDown s c).bind fun torn => ?_
    exact Leads.bind (hnames (fun _ => rfl) fun _ => rfl) fun _ => leads_pure _
  | drop id =>
    refine leads_get.bind fun _ => ?_
    dsimp only
    refine Leads.bind (leads_modify (fun s => ?_) fun _ => rfl) fun _ => leads_pure _
    exact leads_dropOld (fun c s => .dropContext s c) _ s.store

/-- An action on an array with a name, which it may overwrite. -/
theorem leadsAt_writeArray {name : String} {a : AnyArray} {action : Action ArrayError Unit}
    (ha : s.arrays.lookup name = some a) (haction : action.Leads a.array.target) :
    (onArray action >>= fun _ => pure Answer.nothing).LeadsAt (beside none none)
      (s.writtenArray name) s := by
  have hle : a.array.target ⊆ s.writtenArray name := fun id hid => ⟨a, ha, hid⟩
  exact (leads_act (fun _ _ => rfl) (haction.mono hle)).finish _ s

theorem ArrayCommand.leadsAt_run (c : ArrayCommand) (s : Session) :
    c.run.LeadsAt (beside (Command.array c).buffer? (c.name?.or c.puts?))
      ((Command.array c).writes s) s := by
  -- an array that is made gets a name
  have hmade {id : String} {t : ScalarType} {e : ElementShape}
      {action : Action ArrayError (BlockArray t e)} (h : action.Leads ∅) :
      (onArray action >>= fun a => nameArray id ⟨t, e, a⟩ >>= fun _ => pure Answer.nothing).Leads
        (beside none (some id)) ∅ :=
    (leads_act (fun _ _ => rfl) h).bind fun a => (leads_nameArray id _).finish _
  have hupdate {id : String} {a : AnyArray} :
      (updateArray id a).Leads (beside none (some id)) ∅ :=
    leads_modify (fun s => .refl s.store) fun _ => by simp [beside, devices, others]
  cases c with
  | new id t e alloc len =>
    exact (leads_find _ _).bind (fun a => hmade (BlockArray.leads_new e t a len)) s
  | fromHost id t e alloc values =>
    refine (leads_find _ _).bind (fun a => (leads_required _ _).bind fun values => ?_) s
    exact hmade (BlockArray.leads_fromHost e t a values)
  | shared id t e pool key len =>
    exact (leads_find _ _).bind (fun p => hmade (BlockArray.leads_shared e t p key len)) s
  | withId id t e pool key len =>
    exact (leads_find _ _).bind (fun p => hmade (BlockArray.leads_withId e t p key len)) s
  | inContext id t e ctx len =>
    exact (leads_find _ _).bind (fun c => hmade (BlockArray.leads_inContext e t c len)) s
  | sharedIn id t e ctx key len =>
    exact (leads_find _ _).bind (fun c => hmade (BlockArray.leads_sharedIn e t c key len)) s
  | setGrid arr g =>
    exact (leads_find _ _).bind (fun a => hupdate.finish _) s
  | describe arr =>
    refine (leads_find _ _).bind (fun a => ?_) s
    refine (leads_act (fun _ _ => rfl) a.array.leads_numel).bind fun numel => ?_
    exact (leads_act (fun _ _ => rfl) (Action.leads_checked _)).finish _
  | acquire arr =>
    refine (leads_find _ _).bind (fun a => ?_) s
    refine (leads_act (fun _ _ => rfl) a.array.leads_acquire).bind fun acquired => ?_
    exact hupdate.finish _
  | zero arr => exact leadsAt_using fun a ha => leadsAt_writeArray ha a.array.leads_zero
  | toHost arr =>
    refine (leads_find _ _).bind (fun a => Leads.finish ?_ _) s
    exact leads_act (fun _ _ => rfl) a.array.leads_toHost
  | ofHost arr values =>
    refine leadsAt_using fun a ha => leadsAt_required fun values _ => ?_
    exact leadsAt_writeArray ha (a.array.leads_ofHost values)
  | copy arr source index count =>
    refine leadsAt_using fun a ha => leadsAt_using fun source _ => leadsAt_required fun b _ => ?_
    exact leadsAt_writeArray ha (a.array.leads_copyFrom index b.2 count)
  | scatter arr indices source n =>
    refine leadsAt_using fun a ha => leadsAt_using fun i _ => leadsAt_required fun positions _ =>
      leadsAt_using fun b _ => leadsAt_required fun values _ => ?_
    exact leadsAt_writeArray ha (a.array.leads_scatter positions values n)
  | gather arr indices source start n =>
    refine leadsAt_using fun a ha => leadsAt_using fun i _ => leadsAt_required fun positions _ =>
      leadsAt_using fun b _ => leadsAt_required fun values _ => ?_
    exact leadsAt_writeArray ha (a.array.leads_gather start positions values n)
  | reduce r arr =>
    refine (leads_find _ _).bind (fun a => Leads.finish ?_ _) s
    exact leads_act (fun _ _ => rfl) (a.array.leads_reduce r)
  | summarize arr =>
    refine (leads_find _ _).bind (fun a => Leads.finish ?_ _) s
    exact leads_act (fun _ _ => rfl) a.array.leads_summarize
  | shareBuffer id arr =>
    refine (leads_find _ _).bind (fun a => ?_) s
    split
    next => exact leads_pure _
    next b _ =>
      exact (leads_act (fun _ _ => rfl) (Buffer.leads_clone b)).bind fun b =>
        leads_answerBuffer id b
  | drop id =>
    refine leads_get.bind (fun _ => ?_) s
    dsimp only
    refine Leads.bind (leads_modify (fun s => ?_) fun _ => ?_) fun _ => leads_pure _
    · exact leads_dropOld (fun (a : AnyArray) s => a.array.leads_drop s) _ s.store
    · simp [beside, devices, others, ArrayCommand.name?]

/-! ## Steps -/

/-- The session as a command finds it: with an empty journal, and with no trap kept. -/
def quiet (s : Session) : Session :=
  { s with store := { s.store with journal := [], trapped := false } }

theorem step_of_run {c : Command} {outcome : Except (Fault Failure) Answer} {next : Session}
    (h : StateT.run (ExceptT.run c.run) s.quiet = (outcome, next)) :
    s.step c =
      (⟨if next.store.trapped then .error .trap else outcome, next.store.journal⟩, next) := by
  simp only [step]
  rw [← quiet, h]

/-- A step that ends with a result is a turn that does, without a trap. -/
theorem run_of_step {c : Command} {answer : Answer} (h : (s.step c).1.outcome = .ok answer) :
    StateT.run (ExceptT.run c.run) s.quiet = (.ok answer, (s.step c).2) ∧
      (s.step c).2.store.trapped = false := by
  rcases hrun : StateT.run (ExceptT.run c.run) s.quiet with ⟨outcome, next⟩
  rw [step_of_run hrun] at h ⊢
  dsimp only at h ⊢
  split at h
  next => cases h
  next htrapped => exact ⟨by rw [h], by simpa using htrapped⟩

/-- What a command has written, going by its reply. -/
def Command.overwrites (s : Session) (c : Command) : Set AllocationId :=
  writtenBy (c.writes s) (s.step c).1.outcome

theorem Command.overwrites_subset (s : Session) (c : Command) : c.overwrites s ⊆ c.writes s :=
  writtenBy_subset _ _

/-- Whether the command is one on registries and contexts. -/
def Command.isContext : Command → Bool
  | .context _ => true
  | _ => false

/-- Less may be kept. -/
theorem Turn.LeadsAt.of_kept {δ : Type} (h : m.LeadsAt kept written s) (f : γ → δ) :
    m.LeadsAt (fun s => f (kept s)) written s :=
  ⟨h.store, congrArg f h.kept⟩

theorem Command.leadsAt_run (c : Command) (s : Session) :
    c.run.LeadsAt (others c.buffer? (c.array?.or c.puts?)) (c.writes s) s := by
  cases c with
  | allocator c => exact (c.leads_run s).of_kept Prod.snd
  | buffer c => exact (c.leadsAt_run s).of_kept Prod.snd
  | pool c => exact (c.leads_run s).of_kept Prod.snd
  | context c => exact c.leads_run s
  | array c => exact (c.leadsAt_run s).of_kept Prod.snd

theorem Command.devices_run {c : Command} (hc : c.isContext = false) (s : Session) :
    (StateT.run (ExceptT.run c.run) s).2.devices = s.devices := by
  cases c with
  | allocator c =>
    have hkept : c.run.Leads (beside none none) ∅ := c.leads_run
    exact congrArg Prod.fst (hkept s).kept
  | buffer c => exact congrArg Prod.fst (c.leadsAt_run s).kept
  | pool c =>
    have hkept : c.run.Leads (beside (Command.pool c).buffer? none) ∅ := c.leads_run
    exact congrArg Prod.fst (hkept s).kept
  | context c => cases hc
  | array c => exact congrArg Prod.fst (c.leadsAt_run s).kept

theorem step_leads (s : Session) (c : Command) :
    s.store.Leads (c.overwrites s) (s.step c).2.store := by
  have hwrites : c.writes s.quiet = c.writes s := by cases c <;> rfl
  have hrun := (c.leadsAt_run s.quiet).store
  rw [hwrites] at hrun
  refine (show s.store.Leads (c.overwrites s) s.quiet.store from .aside ..).trans ?_
  rcases hend : StateT.run (ExceptT.run c.run) s.quiet with ⟨outcome, next⟩
  rw [hend] at hrun
  rw [Command.overwrites, step_of_run hend]
  refine hrun.mono ?_
  dsimp only
  split
  next => exact writtenBy_subset _ _
  next => exact subset_rfl

theorem devices_step {c : Command} (hc : c.isContext = false) (s : Session) :
    (s.step c).2.devices = s.devices :=
  c.devices_run hc _

theorem others_step (s : Session) (c : Command) :
    (s.step c).2.others c.buffer? (c.array?.or c.puts?) =
      s.others c.buffer? (c.array?.or c.puts?) :=
  (c.leadsAt_run s.quiet).kept

/-- A command leaves the names of buffers that it neither gives nor takes away. -/
theorem lookup_buffers_step {c : Command} {name : String} (hc : c.buffer? ≠ some name)
    (s : Session) : (s.step c).2.buffers.lookup name = s.buffers.lookup name := by
  have hother := congrFun (congrArg Prod.fst (others_step s c)) name
  simpa [others, Names.others, hc] using hother

/-- A command leaves the names of arrays that it neither gives nor takes away, and under which
    it puts nothing back. -/
theorem lookup_arrays_step {c : Command} {name : String} (hc : c.array? ≠ some name)
    (hputs : c.puts? ≠ some name) (s : Session) :
    (s.step c).2.arrays.lookup name = s.arrays.lookup name := by
  have hother := congrFun (congrArg Prod.snd (others_step s c)) name
  have hnot : c.array?.or c.puts? ≠ some name := by
    rw [Ne, Option.or_eq_some_iff]
    exact fun hname => hname.elim hc fun hname => hputs hname.2
  simpa [others, Names.others, hnot] using hother

end Session

end DeviceMemory
