-- SUMMARY: What buffers change: operations on a range write to its allocation alone, and a failure leaves handles and bytes as they were.
import DeviceMemory.Proofs.Buffer.Balance
import DeviceMemory.Proofs.Store.Since

/-!
# Buffers and what they change

For each operation on buffers, what has become of the store when it ends
(`Store.Since`). One that writes to a range writes to the range's allocation and
to no other. One that fails has written nothing and left no handle, whatever the
cause and however far it came: memory on first use is the only thing that stays,
and temporary copies are dropped.
-/

namespace DeviceMemory

variable {s₀ : Store} {written written' : Set AllocationId} {extra : Multiset AllocationId}

/-! ## Handles of an action -/

namespace Action

variable {ε α : Type} {act : Action ε α} {id : AllocationId}

/-- A handle that was made for an action goes after it. -/
theorem triple_thenDropMade
    (hact : Triple (s₀.Since written (id ::ₘ extra)) act
      (fun _ => s₀.Since written' (id ::ₘ extra)) (s₀.Since written (id ::ₘ extra))) :
    Triple (s₀.Since written (id ::ₘ extra)) (act.thenDrop id) (fun _ => s₀.Since written' extra)
      (s₀.Since written extra) :=
  triple_thenDrop (hact.conseq (fun _ hs => hs) (fun _ _ hs => hs.dropHandle)
    fun _ hs => hs.dropHandle)

/-- A handle that an action is to fill goes if it is not filled. -/
theorem triple_orDropMade {post : α → Store → Prop}
    (hact : Triple (s₀.Since written (id ::ₘ extra)) act post
      (s₀.Since written (id ::ₘ extra))) :
    Triple (s₀.Since written (id ::ₘ extra)) (act.orDrop id) post (s₀.Since written extra) :=
  triple_orDrop (hact.conseq (fun _ hs => hs) (fun _ _ hs => hs) fun _ hs => hs.dropHandle)

end Action

namespace Buffer

open DeviceMemory.Action

variable {ε : Type} {b : Buffer}

/-! ## Making handles -/

/-- The buffer covers a whole allocation with memory, as scalars of a type and in a shape
    whose size the allocation has. -/
def Covers (t : ScalarType) (shape : List Nat) (b : Buffer) (s : Store) : Prop :=
  ∃ a, s.allocations[b.allocation]? = some a ∧ a.block.isSome = true ∧
    byteSize? t shape = some a.size ∧ b = whole b.allocation a.size t shape

theorem since_create (allocator : AllocatorId) (t : ScalarType) (shape : List Nat)
    (zeroed : Bool) :
    Triple (s₀.Since written extra) (create allocator t shape zeroed : Action ε Buffer)
      (fun b s => s₀.Since written (b.allocation ::ₘ extra) s ∧
        s₀.allocations.length ≤ b.allocation ∧
        ∃ a, s.allocations[b.allocation]? = some a ∧ byteSize? t shape = some a.size ∧
          b = whole b.allocation a.size t shape)
      (s₀.Since written extra) := by
  unfold create
  cases hsize : byteSize? t shape with
  | none => exact Triple.via (fun _ _ => False) triple_trap fun _ _ hs => hs.elim
  | some size =>
    intro s hs
    refine ⟨hs.addAllocation allocator size zeroed, hs.length_le, ?_⟩
    exact ⟨_, List.getElem?_concat_length, rfl, rfl⟩

theorem since_acquire (b : Buffer) :
    Triple (s₀.Since written extra) b.acquire (fun _ => s₀.Since written extra)
      (s₀.Since written extra) :=
  triple_of fun _ hs => hs.allocate_ends b.allocation

/-- Memory on first use has the size of its allocation. -/
theorem provides_acquire (b : Buffer) (size : Nat) :
    Triple (fun s => ∃ a, s.allocations[b.allocation]? = some a ∧ a.size = size) b.acquire
      (fun _ s => ∃ a, s.allocations[b.allocation]? = some a ∧ a.block.isSome = true ∧
        a.size = size) (fun _ => True) := by
  refine triple_of fun s hs => ?_
  obtain ⟨a, ha, hsize⟩ := hs
  simp only [Store.allocate, ha]
  split
  next block hblock => exact ⟨a, ha, by rw [hblock]; rfl, hsize⟩
  next =>
    have hallocations := Store.allocations_alloc a.allocator a.size a.zeroed s
    rcases hgrant : s.alloc a.allocator a.size a.zeroed with ⟨(fault | block), s'⟩
    · cases fault <;> trivial
    · rw [hgrant] at hallocations
      have hlt : b.allocation < s'.allocations.length := by
        rw [hallocations]
        exact (List.getElem?_eq_some_iff.mp ha).1
      exact ⟨_, List.getElem?_set_self hlt, rfl, hsize⟩

/-- New memory is an allocation that was not there before. -/
theorem since_allocate (allocator : AllocatorId) (t : ScalarType) (shape : List Nat)
    (zeroed : Bool) :
    Triple (s₀.Since written extra) (allocate allocator t shape zeroed)
      (fun b s => s₀.Since written (b.allocation ::ₘ extra) s ∧
        s₀.allocations.length ≤ b.allocation ∧ b.Covers t shape s)
      (s₀.Since written extra) := by
  refine Triple.bind (since_create allocator t shape zeroed) fun b => ?_
  intro s hs
  obtain ⟨hs, hnew, a, ha, hsize, hb⟩ := hs
  have hsince : Triple (s₀.Since written (b.allocation ::ₘ extra)) b.acquire
      (fun _ => s₀.Since written (b.allocation ::ₘ extra))
      (s₀.Since written (b.allocation ::ₘ extra)) := since_acquire b
  have hacquire := hsince.and (provides_acquire b a.size)
  refine Triple.bind (triple_orDrop (hacquire.conseq (fun _ hs => hs) (fun _ _ hs => hs)
    fun _ hs => hs.1.dropHandle)) (fun _ => Triple.pure fun s' hs' => ?_) s ⟨hs, a, ha, rfl⟩
  obtain ⟨hs', a', ha', hblock, hsame⟩ := hs'
  exact ⟨hs', hnew, a', ha', hblock, hsame ▸ hsize, hsame ▸ hb⟩

theorem since_clone (hb : s₀.Reaches extra b.allocation) :
    Triple (s₀.Since written extra) (b.clone : Action ε Buffer)
      (fun c s => s₀.Since written (c.allocation ::ₘ extra) s ∧ c = b)
      (s₀.Since written extra) := by
  refine Triple.via (fun _ => s₀.Since written (b.allocation ::ₘ extra))
    (triple_update fun _ hs => hs.addHandle hb) fun _ => Triple.pure fun _ hs => ⟨hs, rfl⟩

theorem since_view (hb : s₀.Reaches extra b.allocation) (offset size : Nat) :
    Triple (s₀.Since written extra) (b.view offset size)
      (fun v s => s₀.Since written (v.allocation ::ₘ extra) s ∧ v.allocation = b.allocation)
      (s₀.Since written extra) := by
  refine Triple.bind (triple_ensure fun _ hs => hs) fun _ => ?_
  refine Triple.via (fun _ => s₀.Since written (b.allocation ::ₘ extra))
    (triple_update fun _ hs => hs.addHandle hb) fun _ => Triple.pure fun _ hs => ⟨hs, rfl⟩

/-! ## Bytes -/

theorem since_load (b : Buffer) :
    Triple (s₀.Since written extra) b.load (fun _ => s₀.Since written extra)
      (s₀.Since written extra) := by
  intro s hs
  change Ends _ _ (exec b.load s)
  rw [exec_load]
  split
  next => exact hs
  next block hblock =>
    rw [exec_checked]
    split
    next => exact hs
    next => trivial

theorem since_setBlock {s : Store} {block block' : Block} (hs : s₀.Since written extra s)
    (hblock : s.block? b.allocation = some block) (htag : block'.tag = block.tag) :
    Ends (fun _ => s₀.Since (insert b.allocation written) extra) (s₀.Since written extra)
      (exec (b.setBlock block') s) := by
  obtain ⟨a, ha, hab⟩ := exists_of_block? hblock
  rw [exec_setBlock ha]
  exact hs.changeBlock ha hab htag

theorem since_store (b : Buffer) (bytes : List UInt8) :
    Triple (s₀.Since written extra) (b.store bytes)
      (fun _ => s₀.Since (insert b.allocation written) extra) (s₀.Since written extra) := by
  intro s hs
  change Ends _ _ (exec (b.store bytes) s)
  rw [exec_store]
  split
  next => exact hs
  next block hblock =>
    cases hwrite : block.write? b.offset bytes with
    | none => trivial
    | some block' => exact since_setBlock hs hblock (Block.tag_of_write? hwrite)

/-! ## Transfers with the host -/

theorem since_zero (b : Buffer) :
    Triple (s₀.Since written extra) b.zero
      (fun _ => s₀.Since (insert b.allocation written) extra) (s₀.Since written extra) := by
  refine Triple.bind (since_acquire b) fun _ => ?_
  refine Triple.via (fun block? s => s₀.Since written extra s ∧ s.block? b.allocation = block?)
    (fun _ hs => ⟨hs, rfl⟩) fun block? => ?_
  cases block? with
  | none => exact triple_fail (fun _ hs => hs.1) _
  | some block =>
    simp only
    split
    next => exact fun s hs => since_setBlock hs.1 hs.2 (Block.tag_cleared block)
    next =>
      exact (since_store b _).conseq (fun _ hs => hs.1) (fun _ _ hs => hs) fun _ hs => hs

theorem since_write (b : Buffer) (bytes : List UInt8) :
    Triple (s₀.Since written extra) (b.write bytes)
      (fun _ => s₀.Since (insert b.allocation written) extra) (s₀.Since written extra) := by
  refine Triple.bind (since_acquire b) fun _ => ?_
  refine Triple.bind (triple_ensure fun _ hs => hs) fun _ => ?_
  exact since_store b bytes

theorem since_read (b : Buffer) (size : Nat) :
    Triple (s₀.Since written extra) (b.read size) (fun _ => s₀.Since written extra)
      (s₀.Since written extra) := by
  refine Triple.bind (since_acquire b) fun _ => ?_
  refine Triple.bind (triple_ensure fun _ hs => hs) fun _ => ?_
  exact since_load b

/-! ## Copies between buffers -/

/-- A copy is filled by writing to an allocation that was not there before. -/
theorem since_detach (b : Buffer) :
    Triple (s₀.Since written extra) b.detach
      (fun copy s => s₀.Since written (copy.allocation ::ₘ extra) s ∧
        s₀.allocations.length ≤ copy.allocation)
      (s₀.Since written extra) := by
  refine Triple.bind Action.triple_read fun allocator => ?_
  refine Triple.bind (since_allocate allocator b.dtype [b.numel] false) fun copy => ?_
  intro s hs
  obtain ⟨hs, hnew, -⟩ := hs
  refine Triple.via
    (fun _ => s₀.Since (insert copy.allocation written) (copy.allocation ::ₘ extra))
    (triple_orDropMade ?_) (fun _ => Triple.pure fun s' hs' => ⟨hs'.unwritten ?_, hnew⟩) s hs
  · refine Triple.bind (since_acquire b) fun _ => ?_
    refine Triple.bind (triple_ensure fun _ hs => hs) fun _ => ?_
    exact Triple.bind (since_load b) fun bytes => since_store copy bytes
  · rintro i (rfl | hi) hpos
    · rw [Store.handles, List.getElem?_eq_none hnew] at hpos
      cases hpos
    · exact hi

theorem since_copyFrom (b source : Buffer) :
    Triple (s₀.Since written extra) (b.copyFrom source)
      (fun _ => s₀.Since (insert b.allocation written) extra) (s₀.Since written extra) := by
  refine Triple.bind (since_acquire b) fun _ => ?_
  refine Triple.bind (since_acquire source) fun _ => ?_
  refine Triple.bind (triple_ensure fun _ hs => hs) fun _ => ?_
  split
  next => exact Triple.bind (since_load source) fun bytes => since_store b bytes
  next =>
    split
    next =>
      refine Triple.bind (since_detach source) fun staged => ?_
      refine (triple_thenDropMade ?_).conseq (fun _ hs => hs.1) (fun _ _ hs => hs) fun _ hs => hs
      exact Triple.bind (since_load staged) fun bytes => since_store b bytes
    next => exact Triple.pure fun _ hs => hs.mono (Set.subset_insert ..)

end Buffer

end DeviceMemory
