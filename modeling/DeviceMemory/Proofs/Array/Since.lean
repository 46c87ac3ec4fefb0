-- SUMMARY: What arrays change: an operation that ends well writes to the memory of its array alone, one that fails changes nothing.
import DeviceMemory.Proofs.Array.Balance
import DeviceMemory.Proofs.Launch.Since
import DeviceMemory.Proofs.Pool.Onward

/-!
# Arrays and what they change

For each operation on arrays, what has become of the store when it ends. The
views that copies and launches go through, the snapshots that launches take and
arrays that cannot be filled are dropped on every way out, so a failure leaves
the handles and the bytes of all users as they were.
-/

namespace DeviceMemory

namespace BlockArray

open DeviceMemory.Action

variable {t : ScalarType} {e f : ElementShape} {ε : Type} {s₀ : Store} {h : Holdings}
  {written : Set AllocationId} {extra : Multiset AllocationId}

/-- The allocation that an array writes to. -/
def target (a : BlockArray t e) : Set AllocationId :=
  fun id => ∃ b, a.buffer = some b ∧ b.allocation = id

theorem insert_subset_target {a : BlockArray t e} {b : Buffer} (hb : a.buffer = some b) :
    insert b.allocation written ⊆ written ∪ a.target := by
  rintro id (rfl | hid)
  · exact .inr ⟨b, hb, rfl⟩
  · exact .inl hid

/-- The memory of the array has a handle, if it has any. -/
def Reached (a : BlockArray t e) (s₀ : Store) (extra : Multiset AllocationId) : Prop :=
  ∀ b, a.buffer = some b → s₀.Reaches extra b.allocation

theorem HeldIn.reached {a : BlockArray t e} (ha : a.HeldIn h) (hs₀ : s₀.Balanced h) :
    a.Reached s₀ 0 :=
  fun b hb => .inr (hs₀.handles_pos (ha b hb))

/-! ## Construction -/

/-- An owned array is one more handle, to an allocation that was not there before. -/
theorem since_new (e : ElementShape) (t : ScalarType) (allocator : AllocatorId) (len : Nat) :
    Triple (s₀.Since written extra) (new e t allocator len)
      (fun a s => ∃ b : Buffer, a = ⟨len, some b, .owned, none, Grid.default⟩ ∧
        s₀.Since written (b.allocation ::ₘ extra) s ∧ s₀.allocations.length ≤ b.allocation ∧
        b.Covers t (bufferShape e len) s)
      (s₀.Since written extra) := by
  refine Triple.bind (triple_mapError (Buffer.since_allocate allocator t _ false)) fun b => ?_
  exact Triple.pure fun s hs => ⟨b, rfl, hs⟩

/-- If the array shares a slot, it has not been acquired. -/
def Unfilled (a : BlockArray t e) : Prop := ∀ key, a.ownership = .shared key → a.buffer = none

/-- If the array is owned, it has memory, and memory that it has is a whole allocation in its
    own type and shape. -/
structure Fitted (a : BlockArray t e) (s : Store) : Prop where
  owned : a.ownership = .owned → a.isAcquired = true
  covers : ∀ b, a.buffer = some b → b.Covers t a.shape s

/-- What an operation that made an array left. -/
structure Built (a : BlockArray t e) (s₀ s : Store) : Prop where
  onward : s₀.Onward ∅ ∅ s
  unfilled : a.Unfilled
  fitted : a.Fitted s

/-- The operation makes an array, from a store `s₀` on. -/
def Builds (s₀ : Store) (act : Action ArrayError (BlockArray t e)) : Prop :=
  Triple (fun s => s = s₀) act (fun a s => a.Built s₀ s) (s₀.Since ∅ 0)

theorem built_owned {b : Buffer} {s : Store} {len : Nat} (hs : s₀.Since ∅ {b.allocation} s)
    (hb : b.Covers t (bufferShape e len) s) :
    (⟨len, some b, .owned, none, Grid.default⟩ : BlockArray t e).Built s₀ s where
  onward := .of_since hs
  unfilled := nofun
  fitted := ⟨fun _ => rfl, by rintro _ ⟨⟩; exact hb⟩

theorem built_shared {s : Store} (hs : s₀.Onward ∅ ∅ s) (key : PoolKey) (p : PoolId) (g : Grid)
    (len : Nat) : (⟨len, none, .shared key, some p, g⟩ : BlockArray t e).Built s₀ s where
  onward := hs
  unfilled _ _ := rfl
  fitted := ⟨nofun, nofun⟩

theorem builds_new (e : ElementShape) (t : ScalarType) (allocator : AllocatorId) (len : Nat) :
    Builds s₀ (new e t allocator len) := by
  refine (since_new e t allocator len).conseq (fun s hs => hs ▸ .refl s₀) ?_ fun _ hs => hs
  rintro _ s ⟨b, rfl, hs, -, hb⟩
  exact built_owned hs hb

theorem builds_inContext (e : ElementShape) (t : ScalarType) (c : Context) (len : Nat) :
    Builds s₀ (inContext e t c len) :=
  Triple.bind (builds_new e t c.allocator len) fun _ => Triple.pure fun _ hs =>
    ⟨hs.onward, hs.unfilled, hs.fitted.owned, hs.fitted.covers⟩

/-- An array that is yet to be acquired. -/
theorem builds_shared {p : PoolId} (hp : 0 < s₀.poolHandles p) (e : ElementShape)
    (t : ScalarType) (key : PoolKey) (len : Nat) :
    Builds s₀ (shared e t p key len : Action ArrayError (BlockArray t e)) := by
  rintro _ rfl
  exact built_shared (.addPoolHandle hp) ..

theorem builds_sharedIn {c : Context} (hp : 0 < s₀.poolHandles c.pool) (e : ElementShape)
    (t : ScalarType) (key : PoolKey) (len : Nat) :
    Builds s₀ (sharedIn e t c key len : Action ArrayError (BlockArray t e)) := by
  rintro _ rfl
  exact built_shared (.addPoolHandle hp) ..

theorem builds_withId {p : PoolId} (hp : 0 < s₀.poolHandles p) (e : ElementShape)
    (t : ScalarType) (id len : Nat) : Builds s₀ (withId e t p id len) := by
  unfold withId
  split
  next key _ => exact builds_shared hp e t key len
  next => exact Triple.bind triple_read fun a => builds_new e t a len

/-! ## Memory -/

/-- A use of the memory of an array. -/
theorem triple_withMemory {α : Type} {pre : Store → Prop} {post : α → Store → Prop}
    {err : Store → Prop} {a : BlockArray t e} {use : Buffer → Action ArrayError α}
    (hfail : ∀ s, pre s → err s)
    (huse : ∀ b, a.buffer = some b → Triple pre (use b) post err) :
    Triple pre (a.memory >>= use) post err := by
  have hmemory : Triple pre a.memory (fun b s => pre s ∧ a.buffer = some b) err := by
    unfold memory
    split
    next b hb => exact Triple.pure fun _ hs => ⟨hs, hb⟩
    next => exact triple_fail hfail _
  exact Triple.bind hmemory fun b => Triple.given (huse b)

/-! ## Transfers with the host -/

theorem since_zero (a : BlockArray t e) :
    Triple (s₀.Since written extra) a.zero (fun _ => s₀.Since (written ∪ a.target) extra)
      (s₀.Since written extra) := by
  refine triple_withMemory (fun _ hs => hs) fun b hb => ?_
  exact (triple_mapError (Buffer.since_zero b)).conseq (fun _ hs => hs)
    (fun _ _ hs => hs.mono (insert_subset_target hb)) fun _ hs => hs

theorem since_toHost (a : BlockArray t e) :
    Triple (s₀.Since written extra) a.toHost (fun _ => s₀.Since written extra)
      (s₀.Since written extra) := by
  refine triple_withMemory (fun _ hs => hs) fun b hb => ?_
  refine Triple.bind triple_checked fun count => ?_
  exact Triple.bind (triple_mapError (Buffer.since_read b _)) fun _ => Triple.pure fun _ hs => hs

theorem since_ofHost (a : BlockArray t e) (values : List (Scalar t)) :
    Triple (s₀.Since written extra) (a.ofHost values)
      (fun _ => s₀.Since (written ∪ a.target) extra) (s₀.Since written extra) := by
  refine Triple.bind triple_checked fun expected => ?_
  refine Triple.bind (triple_ensure fun _ hs => hs) fun _ => ?_
  refine triple_withMemory (fun _ hs => hs) fun b hb => ?_
  exact (triple_mapError (Buffer.since_write b _)).conseq (fun _ hs => hs)
    (fun _ _ hs => hs.mono (insert_subset_target hb)) fun _ hs => hs

/-- An array is filled by writing to an allocation that was not there before. -/
theorem since_fromHost (e : ElementShape) (t : ScalarType) (allocator : AllocatorId)
    (values : List (Scalar t)) :
    Triple (s₀.Since written extra) (fromHost e t allocator values)
      (fun a s => ∃ b : Buffer,
        a = ⟨values.length / e.block, some b, .owned, none, Grid.default⟩ ∧
        s₀.Since written (b.allocation ::ₘ extra) s ∧
        b.Covers t (bufferShape e (values.length / e.block)) s)
      (s₀.Since written extra) := by
  refine Triple.bind (triple_ensure fun _ hs => hs) fun _ => ?_
  refine Triple.bind (since_new e t allocator _) fun a => ?_
  rintro s ⟨b, rfl, hs, hnew, hcovers⟩
  have hmade : Triple (s.Since ∅ 0) (ofHost _ values) (fun _ => s.Since (∅ ∪ target _) 0)
      (s.Since ∅ 0) :=
    since_ofHost (⟨values.length / e.block, some b, .owned, none, Grid.default⟩ :
      BlockArray t e) values
  refine Triple.bind (triple_orDrop (((since_ofHost _ values).and hmade).conseq (fun _ hs => hs)
    (fun _ _ hs => hs) fun _ hs => hs.1.dropHandle)) (fun _ => Triple.pure ?_) s ⟨hs, .refl s⟩
  rintro s' ⟨hs', hlater⟩
  have hpos : 0 < s'.handles b.allocation := by
    rw [hlater.handles, Multiset.count_zero]
    exact hs.handles_pos (.inl (Multiset.mem_cons_self ..))
  refine ⟨b, rfl, hs'.unwritten ?_, (Store.Onward.of_since hlater).covers hcovers hpos⟩
  rintro i (hi | ⟨_, hb, rfl⟩) hold
  · exact hi
  · cases hb
    rw [Store.handles, List.getElem?_eq_none hnew] at hold
    cases hold

theorem builds_fromHost (e : ElementShape) (t : ScalarType) (allocator : AllocatorId)
    (values : List (Scalar t)) : Builds s₀ (fromHost e t allocator values) := by
  refine (since_fromHost e t allocator values).conseq (fun s hs => hs ▸ .refl s₀) ?_
    fun _ hs => hs
  rintro _ s ⟨b, rfl, hs, hb⟩
  exact built_owned hs hb

/-! ## Copies, launches and summaries -/

theorem since_copyFrom (a : BlockArray t e) (index : Nat) (source : BlockArray t f) (count : Nat)
    (ha : a.Reached s₀ extra) (hsource : source.Reached s₀ extra) :
    Triple (s₀.Since written extra) (a.copyFrom index source count)
      (fun _ => s₀.Since (written ∪ a.target) extra) (s₀.Since written extra) := by
  refine Triple.bind triple_checked fun len => ?_
  refine Triple.bind (triple_ensure fun _ hs => hs) fun _ => ?_
  refine Triple.bind triple_checked fun sourceLen => ?_
  refine Triple.bind (triple_ensure fun _ hs => hs) fun _ => ?_
  split
  next => exact Triple.pure fun _ hs => hs.mono Set.subset_union_left
  next =>
    refine Triple.bind triple_checked fun bytes => ?_
    refine triple_withMemory (fun _ hs => hs) fun b hb => ?_
    refine Triple.bind (triple_mapError (Buffer.since_view (hsource b hb) 0 bytes)) fun taken => ?_
    refine Triple.given fun _ => triple_thenDropMade ?_
    refine triple_withMemory (fun _ hs => hs) fun b' hb' => ?_
    refine Triple.bind triple_checked fun offset => ?_
    refine Triple.bind (triple_mapError
      (Buffer.since_view ((ha b' hb').cons taken.allocation) offset bytes)) fun given => ?_
    refine Triple.given fun hgiven => triple_thenDropMade ?_
    exact (triple_mapError (Buffer.since_copyFrom given taken)).conseq (fun _ hs => hs)
      (fun _ _ hs => hs.mono (hgiven ▸ insert_subset_target hb')) fun _ hs => hs

theorem since_scatter (a source : BlockArray t e) (indices : BlockArray .int32 .scalar) (n : Nat) :
    Triple (s₀.Since written extra) (a.scatter indices source n)
      (fun _ => s₀.Since (written ∪ a.target) extra) (s₀.Since written extra) := by
  refine triple_withMemory (fun _ hs => hs) fun positions _ => ?_
  refine triple_withMemory (fun _ hs => hs) fun values _ => ?_
  refine triple_withMemory (fun _ hs => hs) fun b hb => ?_
  exact (triple_mapError (Kernel.since_launch .scatter t b positions values n e.block
    a.grid)).conseq (fun _ hs => hs) (fun _ _ hs => hs.mono (insert_subset_target hb))
    fun _ hs => hs

theorem since_gather (a source : BlockArray t e) (indices : BlockArray .int32 .scalar)
    (start n : Nat) (ha : a.Reached s₀ extra) :
    Triple (s₀.Since written extra) (a.gather start indices source n)
      (fun _ => s₀.Since (written ∪ a.target) extra) (s₀.Since written extra) := by
  unfold gather
  split
  next => exact Triple.pure fun _ hs => hs.mono Set.subset_union_left
  next =>
    refine triple_withMemory (fun _ hs => hs) fun positions _ => ?_
    refine triple_withMemory (fun _ hs => hs) fun values _ => ?_
    refine triple_withMemory (fun _ hs => hs) fun b hb => ?_
    refine Triple.bind triple_checked fun elementBytes => ?_
    split
    next => exact triple_fail (fun _ hs => hs) _
    next offset _ =>
      refine Triple.bind (triple_mapError (Buffer.since_view (ha b hb) offset _)) fun tail => ?_
      refine Triple.given fun htail => triple_thenDropMade ?_
      exact (triple_mapError (Kernel.since_launch .gather t tail positions values n e.block
        a.grid)).conseq (fun _ hs => hs)
        (fun _ _ hs => hs.mono (htail ▸ insert_subset_target hb)) fun _ hs => hs

theorem since_reduce (r : Reduction) (a : BlockArray t e) :
    Triple (s₀.Since written extra) (a.reduce r) (fun _ => s₀.Since written extra)
      (s₀.Since written extra) :=
  triple_withMemory (fun _ hs => hs) fun b _ =>
    triple_mapError (Kernel.since_launchReduction r t b a.grid)

theorem since_summarize (a : BlockArray t e) :
    Triple (s₀.Since written extra) a.summarize (fun _ => s₀.Since written extra)
      (s₀.Since written extra) := by
  refine Triple.bind (since_toHost a) fun values => ?_
  refine Triple.bind triple_checked fun byteSize => ?_
  refine triple_withMemory (fun _ hs => hs) fun b _ => ?_
  refine Triple.bind Action.triple_read fun device => ?_
  exact Triple.via (fun _ => s₀.Since written extra) (triple_update fun _ hs => hs.record _)
    fun _ => Triple.pure fun _ hs => hs

/-! ## Acquiring -/

/-- What an acquisition of an array says and leaves. -/
inductive Acquired (a : BlockArray t e) (s₀ : Store) : Bool × BlockArray t e → Store → Prop where
  /-- A shared array that has memory keeps it. -/
  | again {b : Buffer} {key : PoolKey} (hbuffer : a.buffer = some b)
      (hshared : a.ownership = .shared key) : Acquired a s₀ (false, a) s₀
  | owned {b : Buffer} {s : Store} (hbuffer : a.buffer = some b)
      (howned : a.ownership = .owned) (hs : s₀.Since ∅ 0 s) : Acquired a s₀ (true, a) s
  /-- A shared array without memory gets what its slot has. -/
  | slot {pool : PoolId} {key : PoolKey} {b : Buffer} {acquisition : Acquisition} {s : Store}
      (hbuffer : a.buffer = none) (hshared : a.ownership = .shared key)
      (hpool : a.pool = some pool)
      (hs : Pool.Acquired pool key t a.shape s₀ (b, acquisition) s) :
      Acquired a s₀ (acquisition.isFresh, { a with buffer := some b }) s

/-- A shared array that has memory is not acquired again. -/
theorem exec_acquire_again {a : BlockArray t e} {b : Buffer} {key : PoolKey}
    (hbuffer : a.buffer = some b) (hshared : a.ownership = .shared key) (s : Store) :
    exec a.acquire s = (.ok (false, a), s) := by
  rw [acquire, hbuffer, hshared]
  rfl

/-- An array of another size than its slot has is refused. -/
theorem exec_acquire_refused {a : BlockArray t e} {p : PoolId} {key : PoolKey} {A : AllocationId}
    {size : Nat} {s : Store} (hbuffer : a.buffer = none) (hshared : a.ownership = .shared key)
    (hpool : a.pool = some p) (hlive : Pool.live? p key s = some A)
    (hsize : DeviceMemory.byteSize? t a.shape = some size) (hother : size ≠ s.sizeOf A) :
    exec a.acquire s =
      (.error (.error (.device (.slotMismatch key.id (s.sizeOf A) size))), s) := by
  have hrefused : exec (Pool.acquire p key t a.shape) s =
      (.error (.error (.slotMismatch key.id (s.sizeOf A) size)), s) := by
    rw [Pool.exec_acquire_live hsize hlive, if_neg hother.symm]
  rw [acquire, hbuffer, hshared, hpool]
  exact exec_bind_of_error (exec_mapError_of_error hrefused)

theorem triple_acquired (hs₀ : s₀.Balanced h) (a : BlockArray t e) :
    Triple (fun s => s = s₀) a.acquire (a.Acquired s₀) s₀.Spared := by
  unfold acquire
  split
  next hbuffer hshared => exact Triple.pure fun s hs => hs ▸ .again hbuffer hshared
  next b hbuffer howned =>
    have hacquire : Triple (s₀.Since ∅ 0) b.acquire (fun _ => s₀.Since ∅ 0) (s₀.Since ∅ 0) :=
      Buffer.since_acquire b
    exact Triple.bind ((triple_mapError hacquire).conseq (fun s hs => hs ▸ .refl s₀)
      (fun _ _ hs => hs) fun _ hs => hs.spared) fun _ =>
        Triple.pure fun s hs => .owned hbuffer howned hs
  next key pool hbuffer hshared hpool =>
    have hacquire : Triple (fun s => s = s₀) (Pool.acquire pool key t a.shape)
        (Pool.Acquired pool key t a.shape s₀) ((Pool.pruned pool key s₀).Since ∅ 0) :=
      fun s hs => hs ▸ Pool.acquire_ends pool key t a.shape
    exact Triple.bind ((triple_mapError hacquire).conseq (fun _ hs => hs) (fun _ _ hs => hs)
      fun _ hs => hs₀.spared hs) fun result =>
        Triple.pure fun s hs => .slot hbuffer hshared hpool hs
  next => exact triple_fail (fun s hs => hs ▸ (Store.Since.refl s₀).spared) _

end BlockArray

end DeviceMemory
