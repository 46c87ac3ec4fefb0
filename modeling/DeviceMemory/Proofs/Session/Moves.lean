-- SUMMARY: What a command may write, forget and make live, and what its success and its failure leave.
import DeviceMemory.Proofs.Array.Since
import DeviceMemory.Proofs.Pool.Moved
import DeviceMemory.Proofs.Session.Balance

/-!
# Moves of sessions

A command that succeeds moves the store on (`Store.Moved`): it writes to the
allocations in `Command.writes`, forgets the slots in `Command.forgets` and makes
those keys live that `Command.filings` says it acquired fresh. The arrays
afterwards are those from before, one that was acquired, or new ones
(`AnyArray.Arisen`).

A command that fails has harmed nothing: all names are as they were, and so is
what users can see of the store (`Session.Failed`).
-/

namespace DeviceMemory

/-! ## What commands write, forget and file -/

namespace Session

/-- The allocation under the name of a buffer. -/
def written (s : Session) (buf : String) : Set AllocationId :=
  {id | (s.buffers.lookup buf).map Buffer.allocation = some id}

/-- The allocation of the array with a name. -/
def writtenArray (s : Session) (arr : String) : Set AllocationId :=
  {id | ∃ a, s.arrays.lookup arr = some a ∧ id ∈ a.array.target}

/-- The slots that tearing down the context with a name forgets. -/
def cleared (s : Session) (ctx : String) : Set (PoolId × PoolKey) :=
  {entry | ∃ c, s.contexts.lookup ctx = some c ∧ entry ∈ c.clears}

/-- The allocations that a command may write to. -/
def Command.writes (s : Session) : Command → Set AllocationId
  | .buffer (.zero buf) => s.written buf
  | .buffer (.write buf _) => s.written buf
  | .buffer (.copy buf _) => s.written buf
  | .buffer (.launch _ _ buf _ _ _ _ _) => s.written buf
  | .array (.zero arr) => s.writtenArray arr
  | .array (.ofHost arr _) => s.writtenArray arr
  | .array (.copy arr _ _ _) => s.writtenArray arr
  | .array (.scatter arr _ _ _) => s.writtenArray arr
  | .array (.gather arr _ _ _ _) => s.writtenArray arr
  | _ => ∅

/-- The slots that a command forgets if it succeeds: those of a released key, of a cleared
    pool, or of the pool of a context that is torn down, dropped or replaced. -/
def Command.forgets (s : Session) : Command → Set (PoolId × PoolKey)
  | .pool (.release name key) => {entry | s.pools.lookup name = some entry.1 ∧ entry.2 = key}
  | .pool (.clear name) => {entry | s.pools.lookup name = some entry.1}
  | .context (.setUp id _ _) => s.cleared id
  | .context (.tearDown ctx) => s.cleared ctx
  | .context (.drop id) => s.cleared id
  | _ => ∅

/-- The slots that a command made live, going by its answer: it acquired the key fresh, for a
    buffer or for an array that shares it. -/
def Command.filings (s : Session) (c : Command) (answer : Answer) (s' : Session) :
    Set (PoolId × PoolKey × AllocationId) :=
  match c, answer with
  | .pool (.acquire id name key _ _), .slot .fresh _ =>
    {entry | s.pools.lookup name = some entry.1 ∧ entry.2.1 = key ∧
      (s'.buffers.lookup id).map Buffer.allocation = some entry.2.2}
  | .array (.acquire arr), .flag true =>
    {entry | ∃ a a', s.arrays.lookup arr = some a ∧ a.array.pool = some entry.1 ∧
      a.array.ownership = .shared entry.2.1 ∧ s'.arrays.lookup arr = some a' ∧
      a'.array.buffer.map Buffer.allocation = some entry.2.2}
  | _, _ => ∅

end Session

/-! ## What becomes of arrays -/

/-- What the pools show under their keys. -/
def Store.shown (s : Store) : Set (PoolId × PoolKey × AllocationId) :=
  {entry | Pool.live? entry.1 entry.2.1 s = some entry.2.2}

/-- Where an array of a session comes from: it was there before, perhaps launched on another
    grid, it is new, or it was acquired and has what a pool shows under its key. -/
inductive AnyArray.Arisen (arrays : Names AnyArray)
    (shown : Set (PoolId × PoolKey × AllocationId)) (store : Store) : AnyArray → Prop where
  | kept {name : String} {a : AnyArray} (ha : (name, a) ∈ arrays) (g : Grid) :
      Arisen arrays shown store ⟨a.t, a.e, a.array.withGrid g⟩
  | made {a : AnyArray} (ha : a.array.Unfilled) : Arisen arrays shown store a
  | acquired {name : String} {a : AnyArray} {pool : PoolId} {key : PoolKey} {b : Buffer}
      (ha : (name, a) ∈ arrays) (hshared : a.array.ownership = .shared key)
      (hpool : a.array.pool = some pool) (hslot : (pool, key, b.allocation) ∈ shown)
      (hb : b.Covers a.t a.array.shape store) :
      Arisen arrays shown store ⟨a.t, a.e, { a.array with buffer := some b }⟩

theorem AnyArray.arisen_of_mem {arrays : Names AnyArray}
    {shown : Set (PoolId × PoolKey × AllocationId)} {store : Store} {entry : String × AnyArray}
    (hentry : entry ∈ arrays) : entry.2.Arisen arrays shown store := by
  obtain ⟨name, a⟩ := entry
  exact .kept hentry a.array.grid

namespace Session

open Turn

variable {α β ε : Type} {s₀ s s₁ : Session} {store : Store} {writes : Set AllocationId}
  {forgets : Set (PoolId × PoolKey)} {filings : Set (PoolId × PoolKey × AllocationId)}
  {err : Session → Prop}

/-- What a command that succeeds leaves. -/
structure Moves (s₀ : Session) (writes : Set AllocationId) (forgets : Set (PoolId × PoolKey))
    (filings : Set (PoolId × PoolKey × AllocationId)) (s : Session) : Prop where
  store : s₀.store.Moved writes forgets filings s.store
  arrays : ∀ entry ∈ s.arrays, entry.2.Arisen s₀.arrays (s₀.store.shown ∪ filings) s.store

/-- What a command that fails leaves. -/
def Failed (s₀ : Session) (s : Session) : Prop := Under s₀ s₀.store.Spared s

/-- Nothing has happened yet. -/
abbrev AtStart (s₀ : Session) (s : Session) : Prop := Under s₀ (fun store => store = s₀.store) s

/-! ## Failures -/

theorem failed_since (hs : Under s₀ (s₀.store.Since ∅ 0) s) : s₀.Failed s := by
  obtain ⟨store, hstore, rfl⟩ := hs
  exact ⟨store, hstore.spared, rfl⟩

theorem failed_start (hs : AtStart s₀ s) : s₀.Failed s := by
  obtain ⟨_, rfl, rfl⟩ := hs
  exact failed_since ⟨_, .refl _, rfl⟩

/-! ## Finding and acting -/

/-- An object of a table, and what is known of it. -/
theorem moves_using {table : Session → Names α}
    (htable : ∀ store : Store, table { s₀ with store := store } = table s₀) {name : String}
    {next : α → Turn β} {post : β → Session → Prop}
    (hnext : ∀ a, (table s₀).lookup name = some a →
      Triple (AtStart s₀) (next a) post s₀.Failed) :
    Triple (AtStart s₀) (find table name >>= next) post s₀.Failed :=
  Triple.bind (under_find htable name fun _ hs => failed_start hs) fun a =>
    Triple.given (hnext a)

/-- An action that starts a turn. -/
theorem under_since {cause : ε → Failure} {action : Action ε α}
    {post : α → Store → Prop}
    (haction : Triple (s₀.store.Since ∅ 0) action post (s₀.store.Since ∅ 0)) :
    Triple (AtStart s₀) (act cause action) (fun a => Under s₀ (post a)) s₀.Failed := by
  refine under_act (haction.conseq (fun store hs => ?_) (fun _ _ hs => hs) fun _ hs => hs)
    fun s hs => failed_since hs
  rw [hs]
  exact .refl _

/-- The store goes onward, and the arrays stay. -/
theorem moves_of_under (hs : Under s₁ (s₀.store.Onward writes forgets) s)
    (harrays : s₁.arrays = s₀.arrays) : s₀.Moves writes forgets ∅ s := by
  obtain ⟨store, hstore, rfl⟩ := hs
  exact ⟨hstore.moved, fun entry hentry => AnyArray.arisen_of_mem (harrays ▸ hentry)⟩

/-- A turn that ends by changing tables other than that of arrays. -/
theorem moves_rename {P : Store → Prop} (hP : ∀ store, P store → s₀.store.Onward ∅ ∅ store)
    {f : Session → Session} {answer : β}
    (hf : ∀ store : Store, f { s₀ with store := store } = { f s₀ with store := store })
    (harrays : (f s₀).arrays = s₀.arrays) :
    Triple (Under s₀ P) ((modify f : Turn Unit) >>= fun _ => pure answer)
      (fun _ => s₀.Moves ∅ ∅ ∅) err := by
  refine Triple.bind (under_rename hf) fun _ => Triple.pure ?_
  rintro _ ⟨store, hstore, rfl⟩
  exact moves_of_under ⟨store, hP store hstore, rfl⟩ harrays

theorem onward_start (store : Store) (hs : store = s₀.store) : s₀.store.Onward ∅ ∅ store :=
  hs ▸ .refl _

/-- Reading moves nothing. -/
theorem moves_start (hs : AtStart s₀ s) : s₀.Moves ∅ ∅ ∅ s := by
  obtain ⟨_, rfl, rfl⟩ := hs
  exact moves_of_under ⟨_, .refl _, rfl⟩ rfl

/-- A turn that acts on the store and answers. -/
theorem moves_finish {cause : ε → Failure} {action : Action ε α}
    {answer : α → β}
    (haction : Triple (s₀.store.Since ∅ 0) action (fun _ => s₀.store.Since writes 0)
      (s₀.store.Since ∅ 0)) :
    Triple (AtStart s₀) (act cause action >>= fun a => pure (answer a))
      (fun _ => s₀.Moves writes ∅ ∅) s₀.Failed := by
  refine Triple.bind (under_since haction) fun _ => Triple.pure ?_
  rintro _ ⟨store, hstore, rfl⟩
  exact moves_of_under ⟨store, .of_since hstore, rfl⟩ rfl

/-! ## Names -/

theorem onward_dropOld {drop : α → Store → Store}
    (hdrop : ∀ a (s : Store), s.Onward ∅ ∅ (drop a s)) (old : Option α) (s : Store) :
    s.Onward ∅ ∅ (dropOld drop old s) := by
  cases old with
  | none => exact .refl s
  | some a => exact hdrop a s

theorem onward_dropBuffer (old : Option Buffer) (s : Store) :
    s.Onward ∅ ∅ (dropOld Buffer.drop old s) := by
  refine onward_dropOld (fun b s => ?_) old s
  exact .dropHandle s b.allocation

theorem onward_dropPool (old : Option PoolId) (s : Store) :
    s.Onward ∅ ∅ (dropOld Store.dropPoolHandle old s) :=
  onward_dropOld (fun p s => .dropPoolHandle s p) old s

theorem onward_dropArray (old : Option AnyArray) (s : Store) :
    s.Onward ∅ ∅ (dropOld (·.array.drop) old s) := by
  refine onward_dropOld (fun a s => ?_) old s
  have hbuffer : s.Onward ∅ ∅ (a.array.buffer.elim s fun b => b.drop s) := by
    cases a.array.buffer with
    | none => exact .refl s
    | some b => exact .dropHandle s b.allocation
  unfold BlockArray.drop
  cases hb : a.array.buffer <;> rw [hb] at hbuffer <;> cases a.array.pool
  · exact hbuffer
  · exact hbuffer.andThen (.dropPoolHandle _ _)
  · exact hbuffer
  · exact hbuffer.andThen (.dropPoolHandle _ _)

/-- A context forgets the slots of its pool when it goes. -/
theorem onward_dropContext (s₀ : Session) (id : String) (store : Store) :
    store.Onward ∅ (s₀.cleared id) (dropOld Context.drop (s₀.contexts.lookup id) store) := by
  cases hc : s₀.contexts.lookup id with
  | none =>
    have hnone : s₀.cleared id = ∅ := by
      ext entry
      simp [cleared, hc]
    rw [hnone]
    exact .refl store
  | some c =>
    have hsome : s₀.cleared id = c.clears := by
      ext entry
      simp [cleared, hc]
    rw [hsome]
    exact .dropContext store c

theorem moves_nameBuffer (id : String) (b : Buffer) :
    Triple (Under s₀ (s₀.store.Onward ∅ ∅)) (nameBuffer id b) (fun _ => s₀.Moves ∅ ∅ ∅) err := by
  refine Triple.modify ?_
  rintro s ⟨store, hstore, rfl⟩
  exact ⟨(hstore.andThen (onward_dropBuffer ..)).moved,
    fun _ hentry => AnyArray.arisen_of_mem hentry⟩

theorem moves_namePool (id : String) (p : PoolId) :
    Triple (Under s₀ (s₀.store.Onward ∅ ∅)) (namePool id p) (fun _ => s₀.Moves ∅ ∅ ∅) err := by
  refine Triple.modify ?_
  rintro s ⟨store, hstore, rfl⟩
  exact ⟨(hstore.andThen (onward_dropPool ..)).moved,
    fun _ hentry => AnyArray.arisen_of_mem hentry⟩

theorem moves_nameContext (id : String) (c : Context) :
    Triple (Under s₀ (s₀.store.Onward ∅ ∅)) (nameContext id c)
      (fun _ => s₀.Moves ∅ (s₀.cleared id) ∅) err := by
  refine Triple.modify ?_
  rintro s ⟨store, hstore, rfl⟩
  exact ⟨((onward_dropContext s₀ id store).after hstore).moved,
    fun _ hentry => AnyArray.arisen_of_mem hentry⟩

/-- An array may be put under a name if it is known where it comes from. -/
theorem arisen_put {arrays : Names AnyArray} {shown : Set (PoolId × PoolKey × AllocationId)}
    {id : String} {a : AnyArray} (ha : a.Arisen arrays shown store) :
    ∀ entry ∈ arrays.put id a, entry.2.Arisen arrays shown store := by
  intro entry hentry
  rcases List.mem_append.mp hentry with hold | hnew
  · exact AnyArray.arisen_of_mem (List.mem_of_mem_filter hold)
  · rw [List.mem_singleton.mp hnew]
    exact ha

theorem moves_nameArray (id : String) (a : AnyArray) :
    Triple (Under s₀ fun store => s₀.store.Onward ∅ ∅ store ∧ a.array.Unfilled) (nameArray id a)
      (fun _ => s₀.Moves ∅ ∅ ∅) err := by
  refine Triple.modify ?_
  rintro s ⟨store, ⟨hstore, ha⟩, rfl⟩
  exact ⟨(hstore.andThen (onward_dropArray ..)).moved, arisen_put (.made ha)⟩

/-! ## Taking names away -/

theorem moves_dropBuffer (id : String) :
    Triple (AtStart s₀) (BufferCommand.drop id).run (fun _ => s₀.Moves ∅ ∅ ∅) err := by
  rintro s ⟨_, rfl, rfl⟩
  exact ⟨(onward_dropBuffer ..).moved, fun _ hentry => AnyArray.arisen_of_mem hentry⟩

theorem moves_dropPool (id : String) :
    Triple (AtStart s₀) (PoolCommand.drop id).run (fun _ => s₀.Moves ∅ ∅ ∅) err := by
  rintro s ⟨_, rfl, rfl⟩
  exact ⟨(onward_dropPool ..).moved, fun _ hentry => AnyArray.arisen_of_mem hentry⟩

theorem moves_dropContext (id : String) :
    Triple (AtStart s₀) (ContextCommand.drop id).run (fun _ => s₀.Moves ∅ (s₀.cleared id) ∅)
      err := by
  rintro s ⟨_, rfl, rfl⟩
  exact ⟨(onward_dropContext s₀ id s₀.store).moved, fun _ hentry => AnyArray.arisen_of_mem hentry⟩

theorem moves_dropArray (id : String) :
    Triple (AtStart s₀) (ArrayCommand.drop id).run (fun _ => s₀.Moves ∅ ∅ ∅) err := by
  rintro s ⟨_, rfl, rfl⟩
  exact ⟨(onward_dropArray ..).moved,
    fun _ hentry => AnyArray.arisen_of_mem (List.mem_of_mem_filter hentry)⟩

end Session

end DeviceMemory
