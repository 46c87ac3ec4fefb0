-- SUMMARY: What operations on arrays and contexts may overwrite, however they end.
import DeviceMemory.Array.Accumulate
import DeviceMemory.Array.Summary
import DeviceMemory.Proofs.Array.Since
import DeviceMemory.Proofs.Buffer.Changes

/-!
# What operations on arrays overwrite

An array is written to through its own buffer or through a view of it, so an
operation overwrites the memory of its array (`BlockArray.target`) if it ends well
or traps, and nothing if it is refused. Setting up a context overwrites nothing.
-/

namespace DeviceMemory

open DeviceMemory.Action

variable {ε : Type} {written : Set AllocationId} {s s' : Store}

namespace BlockArray

variable {t : ScalarType} {e f : ElementShape}

/-! ## Memory and views -/

/-- What follows may use the buffer of the array. -/
theorem leads_memory {α : Type} {a : BlockArray t e} {next : Buffer → Action ArrayError α}
    (hnext : ∀ b, a.buffer = some b → (next b).Leads written) :
    (a.memory >>= next).Leads written := by
  unfold memory
  cases hb : a.buffer with
  | none => exact fun s => .refl s
  | some b => exact hnext b hb

theorem allocation_of_view {b view : Buffer} {offset size : Nat}
    (h : (b.view offset size).exec s = (.ok view, s')) : view.allocation = b.allocation := by
  obtain ⟨_, s₁, -, hrest⟩ := exists_of_exec_bind h
  obtain ⟨_, s₂, -, hview⟩ := exists_of_exec_bind hrest
  cases hview
  rfl

/-- What is written through a view is written to the array. -/
theorem leads_throughView {a : BlockArray t e} {b : Buffer} {offset size : Nat}
    {next : Buffer → Action ArrayError Unit} (hb : a.buffer = some b)
    (hnext : ∀ view, (next view).Leads {view.allocation}) :
    ((b.view offset size).mapError .device >>= next).Leads a.target := by
  refine ((Buffer.leads_view b offset size).mapError _).bind_made _ hnext fun s view s₁ hview => ?_
  rw [Set.singleton_subset_iff]
  exact .inl ⟨b, hb, (allocation_of_view (exec_mapError_eq_ok_iff.mp hview)).symm⟩

theorem singleton_subset_target {a : BlockArray t e} {b : Buffer} (hb : a.buffer = some b) :
    {b.allocation} ⊆ a.target :=
  Set.singleton_subset_iff.mpr ⟨b, hb, rfl⟩

/-! ## Construction -/

theorem leads_new (e : ElementShape) (t : ScalarType) (allocator : AllocatorId) (len : Nat) :
    (new e t allocator len).Leads written :=
  ((Buffer.leads_allocate allocator t _ false).mapError _).bind fun _ => leads_pure _

theorem leads_shared (e : ElementShape) (t : ScalarType) (pool : PoolId) (key : PoolKey)
    (len : Nat) : (shared e t pool key len : Action ε (BlockArray t e)).Leads written :=
  (leads_update fun _ => .aside ..).bind fun _ => leads_pure _

theorem leads_withId (e : ElementShape) (t : ScalarType) (pool : PoolId) (id len : Nat) :
    (withId e t pool id len).Leads written := by
  unfold withId
  split
  next key _ => exact leads_shared e t pool key len
  next => exact (leads_read _).bind fun allocator => leads_new e t allocator len

theorem leads_inContext (e : ElementShape) (t : ScalarType) (c : Context) (len : Nat) :
    (inContext e t c len).Leads written :=
  (leads_new e t c.allocator len).bind fun _ => leads_pure _

theorem leads_sharedIn (e : ElementShape) (t : ScalarType) (c : Context) (key : PoolKey)
    (len : Nat) : (sharedIn e t c key len : Action ε (BlockArray t e)).Leads written :=
  (leads_shared e t c.pool key len).bind fun _ => leads_pure _

theorem leads_drop (a : BlockArray t e) (s : Store) : s.Leads written (a.drop s) := by
  have hbuffer : s.Leads written (a.buffer.elim s fun b => b.drop s) := by
    cases a.buffer with
    | none => exact .refl s
    | some b => exact .dropHandle s b.allocation
  unfold drop
  cases hb : a.buffer <;> rw [hb] at hbuffer <;> cases a.pool
  · exact hbuffer
  · exact hbuffer.trans (.dropPoolHandle ..)
  · exact hbuffer
  · exact hbuffer.trans (.dropPoolHandle ..)

theorem leads_acquire (a : BlockArray t e) : a.acquire.Leads written := by
  unfold acquire
  split
  next => exact leads_pure _
  next b _ _ => exact ((Buffer.leads_acquire b).mapError _).bind fun _ => leads_pure _
  next key pool _ _ _ =>
    exact ((Pool.leads_acquire pool key t a.shape).mapError _).bind fun _ => leads_pure _
  next => exact leads_fail _

/-! ## Transfers -/

theorem leads_numel (a : BlockArray t e) : (a.numel : Action ε Nat).Leads written :=
  leads_checked _

theorem leads_zero (a : BlockArray t e) : a.zero.Leads a.target :=
  leads_memory fun b hb => ((Buffer.leads_zero b).mapError _).mono (singleton_subset_target hb)

theorem leads_toHost (a : BlockArray t e) : a.toHost.Leads written := by
  refine leads_memory fun b _ => (leads_numel a).bind fun count => ?_
  exact ((Buffer.leads_read b _).mapError _).bind fun _ => leads_pure _

theorem leads_ofHost (a : BlockArray t e) (values : List (Scalar t)) :
    (a.ofHost values).Leads a.target := by
  refine (leads_numel a).bind fun expected => (leads_ensure _ _).bind fun _ => ?_
  exact leads_memory fun b hb =>
    ((Buffer.leads_write b _).mapError _).mono (singleton_subset_target hb)

/-- The array that is filled is new. -/
theorem leads_fromHost (e : ElementShape) (t : ScalarType) (allocator : AllocatorId)
    (values : List (Scalar t)) : (fromHost e t allocator values).Leads written := by
  refine (leads_ensure _ _).bind fun _ => ?_
  refine (leads_new e t allocator _).bind_made BlockArray.target (fun a => ?_)
    fun s a s₁ hnew => ?_
  · split
    next b _ =>
      exact ((leads_ofHost a values).orDrop _).bind_trap fun _ s => ⟨rfl, fun _ => nofun⟩
    next => exact (leads_ofHost a values).bind_trap fun _ s => ⟨rfl, fun _ => nofun⟩
  · obtain ⟨b, s₂, hb, hpure⟩ := exists_of_exec_bind hnew
    cases hpure
    rintro id ⟨_, ⟨⟩, rfl⟩
    rw [(Buffer.of_exec_allocate (exec_mapError_eq_ok_iff.mp hb)).2.1]
    exact .inr (Set.mem_Ici.mpr (Nat.le_refl _))

theorem leads_copyFrom (a : BlockArray t e) (index : Nat) (source : BlockArray t f)
    (count : Nat) : (a.copyFrom index source count).Leads a.target := by
  refine (leads_numel a).bind fun len => (leads_ensure _ _).bind fun _ => ?_
  refine (leads_numel source).bind fun sourceLen => (leads_ensure _ _).bind fun _ => ?_
  split
  next => exact leads_pure _
  next =>
    refine (leads_checked _).bind fun bytes => leads_memory fun from' _ => ?_
    refine ((Buffer.leads_view from' 0 bytes).mapError _).bind fun taken => Leads.thenDrop ?_ _
    refine leads_memory fun b hb => (leads_checked _).bind fun offset => ?_
    exact leads_throughView hb fun given =>
      ((Buffer.leads_copyFrom given taken).mapError _).thenDrop _

/-! ## Launches -/

theorem leads_scatter (a : BlockArray t e) (indices : BlockArray .int32 .scalar)
    (source : BlockArray t e) (n : Nat) : (a.scatter indices source n).Leads a.target := by
  refine leads_memory fun positions _ => leads_memory fun values _ => leads_memory fun b hb => ?_
  have hlaunch := Kernel.leads_launch .scatter t b positions values n e.block a.grid
  exact (hlaunch.mapError _).mono (singleton_subset_target hb)

theorem leads_gather (a : BlockArray t e) (start : Nat) (indices : BlockArray .int32 .scalar)
    (source : BlockArray t e) (n : Nat) :
    (a.gather start indices source n).Leads a.target := by
  unfold gather
  split
  next => exact leads_pure _
  next =>
    refine leads_memory fun positions _ => leads_memory fun values _ => leads_memory fun b hb => ?_
    refine (leads_checked _).bind fun elementBytes => ?_
    split
    next => exact leads_fail _
    next offset hoffset =>
      refine leads_throughView hb fun tail => ?_
      have hlaunch := Kernel.leads_launch .gather t tail positions values n e.block a.grid
      exact (hlaunch.mapError _).thenDrop _

theorem leads_reduce (r : Reduction) (a : BlockArray t e) : (a.reduce r).Leads written :=
  leads_memory fun b _ => (Kernel.leads_launchReduction r t b a.grid).mapError _

theorem leads_summarize (a : BlockArray t e) : a.summarize.Leads written := by
  refine (leads_toHost a).bind fun values => (leads_checked _).bind fun byteSize => ?_
  refine leads_memory fun b _ => (leads_read _).bind fun device => ?_
  exact (leads_update fun _ => .aside ..).bind fun _ => leads_pure _

end BlockArray

/-! ## Contexts -/

theorem Registry.leads_get (r : Registry) (device : Device) (capacity : Nat) :
    (r.get device capacity).Leads written := by
  unfold Registry.get
  split
  next => exact leads_pure _
  next =>
    cases device with
    | cpu => exact Leads.bind (leads_total fun _ => .of_change (.stack ..)) fun _ => leads_pure _
    | cuda index => exact Leads.bind (leads_fail _) fun _ => leads_pure _

theorem Context.leads_setUp (registry : Registry) (config : Config) :
    (setUp registry config).Leads written := by
  refine (leads_ensure _ _).bind fun _ => ?_
  refine (registry.leads_get config.device config.cacheCapacity).bind fun result => ?_
  refine Leads.bind (leads_total fun _ => .aside ..) fun pool => ?_
  exact (leads_update fun _ => .aside ..).bind fun _ => leads_pure _

end DeviceMemory
