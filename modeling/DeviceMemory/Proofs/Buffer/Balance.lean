-- SUMMARY: Buffers keep the store balanced: each operation takes and adds exactly the handles that its result shows.
import DeviceMemory.Buffer.Transfer
import DeviceMemory.Proofs.Store.Triple

/-!
# Buffers and holdings

The triple of each operation on buffers, from making one to copying between two.
An operation that fails on the way drops what it made, so that its users hold
what they held before. A buffer may be used by whoever holds its handle.
-/

namespace DeviceMemory

/-! ## Memory on first use -/

/-- An allocation that someone holds may get its memory. -/
theorem Store.allocate_ends {s : Store} {h : Holdings} {id : AllocationId} (hs : s.Balanced h)
    (hid : 0 < s.handles id) : Ends (fun _ => Holds h) (Holds h) (s.allocate id) := by
  obtain ⟨a, ha, hlive⟩ := Store.exists_of_handles_pos hid
  simp only [Store.allocate, ha]
  split
  next => exact hs
  next hnone =>
    rcases hgrant : s.alloc a.allocator a.size a.zeroed with ⟨(fault | block), s'⟩
    · cases fault with
      | error cause => exact hs.alloc_refusal hgrant
      | trap => trivial
    · obtain ⟨hsize, hs'⟩ := hs.alloc_grant hgrant
      have ha' : s'.allocations[id]? = some a := by
        have hsame := Store.allocations_alloc a.allocator a.size a.zeroed s
        rw [hgrant] at hsame
        exact hsame ▸ ha
      exact hs'.putBlock ha' hlive hnone hsize

namespace Buffer

open DeviceMemory.Action

variable {ε : Type} {h : Holdings} {b : Buffer}

/-! ## Making and dropping handles -/

theorem triple_create (allocator : AllocatorId) (t : ScalarType) (shape : List Nat)
    (zeroed : Bool) :
    Triple (Holds h) (create allocator t shape zeroed : Action ε Buffer)
      (fun b => Holds (h + .handle b.allocation)) (Holds h) := by
  refine Triple.bind triple_checked fun size => ?_
  refine Triple.via (fun id => Holds (h + .handle id)) (triple_total ?_) fun id => ?_
  · intro s hs
    exact hs.addAllocation allocator size zeroed
  · exact Triple.pure fun _ hs => hs

theorem triple_acquire (hb : b.allocation ∈ h.handles) :
    Triple (Holds h) b.acquire (fun _ => Holds h) (Holds h) :=
  triple_of fun _ hs => Store.allocate_ends hs (hs.handles_pos hb)

/-- A buffer that gets no memory is dropped at once. -/
theorem triple_allocate (allocator : AllocatorId) (t : ScalarType) (shape : List Nat)
    (zeroed : Bool) :
    Triple (Holds h) (allocate allocator t shape zeroed)
      (fun b => Holds (h + .handle b.allocation)) (Holds h) := by
  refine Triple.bind (triple_create allocator t shape zeroed) fun b => ?_
  refine Triple.bind (triple_orDropHandle (triple_acquire (b := b) ?_)) fun _ =>
    Triple.pure fun _ hs => hs
  simp

theorem triple_clone (hb : b.allocation ∈ h.handles) :
    Triple (Holds h) (b.clone : Action ε Buffer)
      (fun b => Holds (h + .handle b.allocation)) (Holds h) := by
  refine Triple.via (fun _ => Holds (h + .handle b.allocation)) (triple_update ?_)
    fun _ => Triple.pure fun _ hs => hs
  intro s hs
  exact hs.addHandle (hs.handles_pos hb)

theorem triple_view (hb : b.allocation ∈ h.handles) (offset size : Nat) :
    Triple (Holds h) (b.view offset size) (fun b => Holds (h + .handle b.allocation))
      (Holds h) := by
  refine Triple.bind (triple_ensure fun _ hs => hs) fun _ => ?_
  refine Triple.via (fun _ => Holds (h + .handle b.allocation)) (triple_update ?_)
    fun _ => Triple.pure fun _ hs => hs
  intro s hs
  exact hs.addHandle (hs.handles_pos hb)

/-! ## Bytes -/

theorem exec_load (b : Buffer) (s : Store) :
    exec b.load s =
      match s.block? b.allocation with
      | none => (.error (.error .notAllocated), s)
      | some block => exec (checked (block.read? b.offset b.size)) s := by
  rw [load, exec_bind, exec_read]
  cases s.block? b.allocation <;> rfl

theorem exec_store (b : Buffer) (bytes : List UInt8) (s : Store) :
    exec (b.store bytes) s =
      match s.block? b.allocation with
      | none => (.error (.error .notAllocated), s)
      | some block => exec (checked (block.write? b.offset bytes) >>= b.setBlock) s := by
  rw [store, exec_bind, exec_read]
  cases s.block? b.allocation <;> rfl

/-- The state that new memory of a buffer's allocation leaves. -/
theorem exec_setBlock {s : Store} {a : Allocation} (ha : s.allocations[b.allocation]? = some a)
    (block : Block) :
    exec (b.setBlock block) s =
      (.ok (), s.setAllocation b.allocation { a with block := some block }) := by
  rw [setBlock, exec_update, Store.setAllocation, Entries.modify_eq_set ha]

theorem exists_of_block? {s : Store} {id : AllocationId} {block : Block}
    (hblock : s.block? id = some block) :
    ∃ a, s.allocations[id]? = some a ∧ a.block = some block := by
  simpa only [Store.block?, Option.bind_eq_some_iff] using hblock

theorem triple_load : Triple (Holds h) b.load (fun _ => Holds h) (Holds h) := by
  intro s hs
  change Ends _ _ (exec b.load s)
  rw [exec_load]
  split
  next => exact hs
  next block hblock =>
    rw [exec_checked]
    split
    next => exact hs
    next => trivial

/-- New memory of the same address and size changes no count. -/
theorem setBlock_ends {s : Store} {block block' : Block} (hs : s.Balanced h)
    (hblock : s.block? b.allocation = some block) (htag : block'.tag = block.tag) :
    Ends (fun _ => Holds h) (Holds h) (exec (b.setBlock block') s) := by
  obtain ⟨a, ha, hab⟩ := exists_of_block? hblock
  rw [exec_setBlock ha]
  exact hs.changeBlock ha hab htag

theorem triple_store (bytes : List UInt8) :
    Triple (Holds h) (b.store bytes) (fun _ => Holds h) (Holds h) := by
  intro s hs
  change Ends _ _ (exec (b.store bytes) s)
  rw [exec_store]
  split
  next => exact hs
  next block hblock =>
    cases hwrite : block.write? b.offset bytes with
    | none => trivial
    | some block' => exact setBlock_ends hs hblock (Block.tag_of_write? hwrite)

/-! ## Transfers with the host -/

theorem triple_zero (hb : b.allocation ∈ h.handles) :
    Triple (Holds h) b.zero (fun _ => Holds h) (Holds h) := by
  refine Triple.bind (triple_acquire hb) fun _ => ?_
  refine Triple.via (fun block? s => Holds h s ∧ s.block? b.allocation = block?)
    (fun _ hs => ⟨hs, rfl⟩) fun block? => ?_
  cases block? with
  | none => exact triple_fail (fun _ hs => hs.1) _
  | some block =>
    simp only
    split
    next => exact fun s hs => setBlock_ends hs.1 hs.2 (Block.tag_cleared block)
    next => exact (triple_store _).conseq (fun _ hs => hs.1) (fun _ _ hs => hs) fun _ hs => hs

theorem triple_write (hb : b.allocation ∈ h.handles) (bytes : List UInt8) :
    Triple (Holds h) (b.write bytes) (fun _ => Holds h) (Holds h) := by
  refine Triple.bind (triple_acquire hb) fun _ => ?_
  refine Triple.bind (triple_ensure fun _ hs => hs) fun _ => ?_
  exact triple_store bytes

theorem triple_read (hb : b.allocation ∈ h.handles) (size : Nat) :
    Triple (Holds h) (b.read size) (fun _ => Holds h) (Holds h) := by
  refine Triple.bind (triple_acquire hb) fun _ => ?_
  refine Triple.bind (triple_ensure fun _ hs => hs) fun _ => ?_
  exact triple_load

/-! ## Copies between buffers -/

/-- A copy that cannot be filled is dropped at once. -/
theorem triple_detach (hb : b.allocation ∈ h.handles) :
    Triple (Holds h) b.detach (fun copy => Holds (h + .handle copy.allocation)) (Holds h) := by
  refine Triple.bind Action.triple_read fun allocator => ?_
  refine Triple.bind (triple_allocate allocator b.dtype [b.numel] false) fun copy => ?_
  refine Triple.bind (triple_orDropHandle ?_) fun _ => Triple.pure fun _ hs => hs
  have hb' : b.allocation ∈ (h + .handle copy.allocation).handles := by simp [hb]
  refine Triple.bind (triple_acquire hb') fun _ => ?_
  refine Triple.bind (triple_ensure fun _ hs => hs) fun _ => ?_
  exact Triple.bind triple_load fun bytes => triple_store bytes

theorem triple_copyFrom {source : Buffer} (hb : b.allocation ∈ h.handles)
    (hsource : source.allocation ∈ h.handles) :
    Triple (Holds h) (b.copyFrom source) (fun _ => Holds h) (Holds h) := by
  refine Triple.bind (triple_acquire hb) fun _ => ?_
  refine Triple.bind (triple_acquire hsource) fun _ => ?_
  refine Triple.bind (triple_ensure fun _ hs => hs) fun _ => ?_
  split
  next => exact Triple.bind triple_load fun bytes => triple_store bytes
  next =>
    split
    next =>
      refine Triple.bind (triple_detach hsource) fun staged => triple_thenDropHandle ?_
      exact Triple.bind triple_load fun bytes => triple_store bytes
    next => exact Triple.pure fun _ hs => hs

end Buffer

end DeviceMemory
