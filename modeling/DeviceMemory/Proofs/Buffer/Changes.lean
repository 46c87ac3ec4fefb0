-- SUMMARY: What operations on buffers and pools and launches may overwrite, however they end.
import DeviceMemory.Launch.Kernel
import DeviceMemory.Proofs.Buffer.Contents
import DeviceMemory.Proofs.Store.Changes

/-!
# What operations on buffers overwrite

Only `store` and `zero` overwrite memory, and each stands last in the operations
that use it. So an operation overwrites its destination if it ends well or traps,
and nothing if it is refused (`Action.Leads`). A temporary copy is filled, but it
is newer than the store that the operation found.
-/

namespace DeviceMemory

open DeviceMemory.Action

namespace Buffer

variable {ε : Type} {written : Set AllocationId} {s s' : Store} {b : Buffer}
  {allocator : AllocatorId} {t : ScalarType} {shape : List Nat} {zeroed : Bool}

/-! ## Making and dropping handles -/

/-- A buffer that was created covers a new allocation. -/
theorem of_exec_create
    (h : (create allocator t shape zeroed : Action ε Buffer).exec s = (.ok b, s')) :
    byteSize? t shape = some b.size ∧ b = whole s.allocations.length b.size t shape ∧
      s' = (s.addAllocation allocator b.size zeroed).2 := by
  obtain ⟨size, hsize, hrest⟩ := of_exec_checked_bind h
  cases hrest
  exact ⟨hsize, rfl, rfl⟩

/-- New memory belongs to a new allocation. -/
theorem of_exec_allocate (h : (allocate allocator t shape zeroed).exec s = (.ok b, s')) :
    byteSize? t shape = some b.size ∧ b = whole s.allocations.length b.size t shape ∧
      s' = ((s.addAllocation allocator b.size zeroed).2.allocate b.allocation).2 := by
  obtain ⟨made, s₁, hcreate, hrest⟩ := exists_of_exec_bind h
  obtain ⟨hsize, hmade, rfl⟩ := of_exec_create hcreate
  obtain ⟨_, s₂, hacquire, hpure⟩ := exists_of_exec_bind hrest
  cases hpure
  refine ⟨hsize, hmade, ?_⟩
  rw [show (s.addAllocation allocator b.size zeroed).2.allocate b.allocation = (.ok (), s')
    from of_exec_orDrop hacquire]

/-- Memory that an allocation was made with is what its allocator granted. -/
theorem provided_of_exec_allocate (h : exec (allocate allocator t shape zeroed) s = (.ok b, s')) :
    ∃ block s₁, s.alloc allocator b.size zeroed = (.ok block, s₁) ∧
      s' = provided allocator b.size zeroed block s₁.allocators s := by
  obtain ⟨hsize, -, -⟩ := of_exec_allocate h
  rcases halloc : s.alloc allocator b.size zeroed with ⟨fault | block, s₁⟩
  · -- the new allocation asks for its memory in vain
    have hfresh : (s.addAllocation allocator b.size zeroed).2.allocations[s.allocations.length]? =
        some ⟨allocator, b.size, zeroed, 1, none⟩ := List.getElem?_concat_length
    have hgrant : (s.addAllocation allocator b.size zeroed).2.alloc allocator b.size zeroed =
        (.error fault, _) := Store.alloc_of_allocators_eq (s := s) rfl halloc
    rw [allocate, exec_bind_of_ok (exec_create hsize allocator zeroed s)] at h
    obtain ⟨_, s₂, hacquire, -⟩ := exists_of_exec_bind h
    have hallocate := of_exec_orDrop hacquire
    rw [acquire, exec_of, whole, Store.allocate, hfresh] at hallocate
    simp only [hgrant] at hallocate
    cases hallocate
  · rw [exec_allocate hsize halloc] at h
    exact ⟨block, s₁, rfl, (Prod.mk.inj h).2.symm⟩

theorem leads_create (allocator : AllocatorId) (t : ScalarType) (shape : List Nat)
    (zeroed : Bool) : (create allocator t shape zeroed : Action ε Buffer).Leads written := by
  refine (leads_checked _).bind fun size => ?_
  exact Leads.bind (leads_total fun s => .of_change (.made ..)) fun _ => leads_pure _

theorem leads_acquire (b : Buffer) : b.acquire.Leads written :=
  leads_of fun s => .allocate s b.allocation

theorem leads_allocate (allocator : AllocatorId) (t : ScalarType) (shape : List Nat)
    (zeroed : Bool) : (allocate allocator t shape zeroed).Leads written := by
  refine (leads_create allocator t shape zeroed).bind fun b => ?_
  exact ((leads_acquire b).orDrop _).bind fun _ => leads_pure _

theorem leads_clone (b : Buffer) : (b.clone : Action ε Buffer).Leads written :=
  (leads_update fun s => .addHandle s _).bind fun _ => leads_pure _

theorem leads_view (b : Buffer) (offset size : Nat) : (b.view offset size).Leads written := by
  refine (leads_ensure _ _).bind fun _ => ?_
  exact (leads_update fun s => .addHandle s _).bind fun _ => leads_pure _

/-! ## Moving bytes -/

theorem leads_load (b : Buffer) : b.load.Leads written := by
  refine (leads_read _).bind fun memory => ?_
  cases memory with
  | none => exact leads_fail _
  | some block => exact leads_checked _

/-- Memory that is there may be replaced by memory of its size. -/
theorem leads_setBlock {block block' : Block} (hb : s.block? b.allocation = some block)
    (hsize : block'.size = block.size) :
    s.Leads {b.allocation} ((b.setBlock block').exec s).2 := by
  obtain ⟨a, ha, hblock⟩ := Option.bind_eq_some_iff.mp hb
  rw [setBlock, exec_update, Entries.modify_eq_set ha]
  exact .of_change (.overwritten ha hblock hsize (Set.mem_singleton _))

theorem leads_store (b : Buffer) (bytes : List UInt8) :
    (b.store bytes).Leads {b.allocation} := by
  intro s
  have hread : (Action.read (Store.block? b.allocation) : Action DeviceError _).exec s =
    (.ok (s.block? b.allocation), s) := rfl
  rw [store, exec_bind_of_ok hread]
  cases hb : s.block? b.allocation with
  | none => exact .refl s
  | some block =>
    dsimp only
    cases hwrite : block.write? b.offset bytes with
    | none => exact .refl s
    | some block' => exact leads_setBlock hb (Block.size_of_write? hwrite)

theorem leads_zero (b : Buffer) : b.zero.Leads {b.allocation} := by
  refine (leads_acquire b).bind fun _ s => ?_
  have hread : (Action.read (Store.block? b.allocation) : Action DeviceError _).exec s =
    (.ok (s.block? b.allocation), s) := rfl
  rw [exec_bind_of_ok hread]
  cases hb : s.block? b.allocation with
  | none => exact .refl s
  | some block =>
    dsimp only
    split
    next => exact leads_setBlock hb block.size_cleared
    next => exact leads_store b _ s

theorem leads_write (b : Buffer) (bytes : List UInt8) :
    (b.write bytes).Leads {b.allocation} := by
  refine (leads_acquire b).bind fun _ => ?_
  exact (leads_ensure _ _).bind fun _ => leads_store b bytes

theorem leads_read (b : Buffer) (size : Nat) : (b.read size).Leads written := by
  refine (leads_acquire b).bind fun _ => ?_
  exact (leads_ensure _ _).bind fun _ => leads_load b

/-- The copy is filled, and it is new. -/
theorem leads_detach (b : Buffer) : b.detach.Leads written := by
  refine (Action.leads_read _).bind fun allocator => ?_
  refine (leads_allocate allocator b.dtype [b.numel] false).bind_made
    (fun copy => {copy.allocation}) (fun copy => ?_) fun s copy s₁ hcopy => ?_
  · refine Leads.bind_trap (Leads.orDrop ?_ _) fun _ s => ⟨rfl, fun _ => nofun⟩
    refine (leads_acquire b).bind fun _ => (leads_ensure _ _).bind fun _ => ?_
    exact (leads_load b).bind fun bytes => leads_store copy bytes
  · rw [(of_exec_allocate hcopy).2.1, Set.singleton_subset_iff]
    exact .inr (Set.mem_Ici.mpr (Nat.le_refl _))

theorem leads_copyFrom (b source : Buffer) : (b.copyFrom source).Leads {b.allocation} := by
  refine (leads_acquire b).bind fun _ => (leads_acquire source).bind fun _ => ?_
  refine (leads_ensure _ _).bind fun _ => ?_
  split
  next => exact (leads_load source).bind fun bytes => leads_store b bytes
  next =>
    split
    next =>
      refine (leads_detach source).bind fun staged => Leads.thenDrop ?_ _
      exact (leads_load staged).bind fun bytes => leads_store b bytes
    next => exact leads_pure _

end Buffer

/-! ## Pools -/

namespace Pool

variable {ε : Type} {written : Set AllocationId}

theorem leads_find (id : PoolId) (key : PoolKey) :
    (find id key : Action ε (Option AllocationId)).Leads written := by
  refine leads_total fun s => ?_
  split
  next => exact .refl s
  next slot =>
    split
    next => exact .refl s
    next => exact .aside ..

theorem leads_remember (id : PoolId) (key : PoolKey) (b : Buffer) :
    (remember id key b : Action ε Unit).Leads written := by
  refine leads_update fun s => ?_
  have hhandle : s.Leads ∅ (if retainsOf id s then s.addHandle b.allocation else s) := by
    split
    next => exact .addHandle ..
    next => exact .refl s
  exact hhandle.trans (.aside ..)

theorem leads_acquire (id : PoolId) (key : PoolKey) (t : ScalarType) (shape : List Nat) :
    (acquire id key t shape).Leads written := by
  refine (leads_checked _).bind fun size => (leads_find id key).bind fun found => ?_
  cases found with
  | some allocation =>
    refine (leads_read _).bind fun expected => (leads_ensure _ _).bind fun _ => ?_
    exact (leads_update fun s => .addHandle ..).bind fun _ => leads_pure _
  | none =>
    refine (leads_read _).bind fun allocator => ?_
    refine (Buffer.leads_allocate allocator t shape false).bind fun b => ?_
    exact (leads_remember id key b).bind fun _ => leads_pure _

end Pool

/-! ## Launches -/

namespace Kernel

variable {written : Set AllocationId}

theorem leads_checkOperands (d : Direction) (t : ScalarType) (destination indices source : Buffer)
    (n block : Nat) : (checkOperands d t destination indices source n block).Leads written := by
  refine (leads_ensure _ _).bind fun _ => (leads_ensure _ _).bind fun _ => ?_
  refine (leads_ensure _ _).bind fun _ => (leads_ensure _ _).bind fun _ => ?_
  refine (leads_ensure _ _).bind fun _ => (leads_checked _).bind fun required => ?_
  cases d with
  | scatter => exact leads_ensure _ _
  | gather => exact leads_ensure _ _

theorem leads_scalars (t : ScalarType) (b : Buffer) : (scalars t b).Leads written := by
  refine (Buffer.leads_load b).bind fun bytes => ?_
  exact (leads_ensure _ _).bind fun _ => leads_pure _

theorem leads_withOperand {α : Type} {destination : Buffer} (operand : Buffer)
    {use : Buffer → Action DeviceError α} (huse : ∀ operand, (use operand).Leads written) :
    (withOperand destination operand use).Leads written := by
  unfold withOperand
  split
  next => exact (Buffer.leads_detach operand).bind fun snapshot => (huse snapshot).thenDrop _
  next => exact huse operand

theorem leads_launchApart (d : Direction) (t : ScalarType) (destination indices source : Buffer)
    (n block : Nat) (g : Grid) :
    (launchApart d t destination indices source n block g).Leads {destination.allocation} := by
  refine (leads_checked _).bind fun _ => (leads_scalars t destination).bind fun old => ?_
  refine (leads_scalars .int32 indices).bind fun positions => ?_
  refine (leads_scalars t source).bind fun values => ?_
  refine (Buffer.leads_store destination _).bind_trap fun _ s => ?_
  split
  next => exact ⟨rfl, fun _ => nofun⟩
  next => exact ⟨rfl, fun _ => nofun⟩

theorem leads_launch (d : Direction) (t : ScalarType) (destination indices source : Buffer)
    (n block : Nat) (g : Grid) :
    (launch d t destination indices source n block g).Leads {destination.allocation} := by
  unfold launch
  split
  next => exact leads_pure _
  next =>
    refine (leads_checkOperands d t destination indices source n block).bind fun _ => ?_
    refine (Buffer.leads_acquire _).bind fun _ => ?_
    refine (Buffer.leads_acquire _).bind fun _ => (Buffer.leads_acquire _).bind fun _ => ?_
    refine leads_withOperand source fun source => leads_withOperand indices fun indices => ?_
    exact leads_launchApart d t destination indices source n block g

theorem leads_launchReduction (r : Reduction) (t : ScalarType) (source : Buffer) (g : Grid) :
    (launchReduction r t source g).Leads written := by
  refine (leads_ensure _ _).bind fun _ => (Buffer.leads_acquire source).bind fun _ => ?_
  exact (leads_scalars t source).bind fun values => leads_checked _

end Kernel

end DeviceMemory
