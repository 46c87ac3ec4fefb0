-- SUMMARY: Arrays keep the store balanced: an array is a handle to its buffer and one to its pool.
import DeviceMemory.Array.Accumulate
import DeviceMemory.Array.Summary
import DeviceMemory.Proofs.Context.Balance
import DeviceMemory.Proofs.Launch.Balance

/-!
# Arrays and holdings

An array holds its buffer, once it has one, and the pool that it shares a slot
of. Operations on an array with memory leave its users with what they held: the
views that they copy and launch through are dropped on every way out.
-/

namespace DeviceMemory.BlockArray

open DeviceMemory.Action

variable {t : ScalarType} {e f : ElementShape} {ε : Type} {h : Holdings} {s : Store}

/-! ## What an array holds -/

/-- The handles that an array is. -/
def holdings (a : BlockArray t e) : Holdings :=
  a.buffer.elim 0 (fun b => .handle b.allocation) + a.pool.elim 0 .pool

theorem handles_holdings (a : BlockArray t e) :
    a.holdings.handles =
      ((a.buffer.map Buffer.allocation).toList : Multiset AllocationId) := by
  obtain ⟨len, buffer, ownership, pool, grid⟩ := a
  cases buffer <;> cases pool <;> rfl

theorem mem_handles_holdings {a : BlockArray t e} {id : AllocationId} :
    id ∈ a.holdings.handles ↔ a.buffer.map Buffer.allocation = some id := by
  rw [handles_holdings, Multiset.mem_coe, Option.mem_toList]

theorem mem_pools_holdings {a : BlockArray t e} {p : PoolId} :
    p ∈ a.holdings.pools ↔ a.pool = some p := by
  obtain ⟨len, buffer, ownership, pool, grid⟩ := a
  cases buffer <;> cases pool <;> simp [holdings, eq_comm]

/-- Memory that a shared array gets is one more handle. -/
theorem holdings_withBuffer {a : BlockArray t e} (hbuffer : a.buffer = none) (b : Buffer) :
    { a with buffer := some b : BlockArray t e }.holdings = a.holdings + .handle b.allocation := by
  simp only [holdings, hbuffer, Option.elim_some, Option.elim_none]
  abel

@[simp] theorem holdings_withGrid (a : BlockArray t e) (g : Grid) :
    (a.withGrid g).holdings = a.holdings := rfl

/-- The users hold the memory of the array, if it has any. -/
def HeldIn (a : BlockArray t e) (h : Holdings) : Prop :=
  ∀ b, a.buffer = some b → b.allocation ∈ h.handles

theorem heldIn_holdings (a : BlockArray t e) (h : Holdings) : a.HeldIn (h + a.holdings) := by
  intro b hb
  refine Multiset.mem_add.mpr (.inr (mem_handles_holdings.mpr ?_))
  rw [hb, Option.map_some]

theorem HeldIn.mono {a : BlockArray t e} (ha : a.HeldIn h) (k : Holdings) : a.HeldIn (h + k) :=
  fun b hb => Multiset.mem_add.mpr (.inl (ha b hb))

theorem drop_balanced {a : BlockArray t e} (hs : s.Balanced (h + a.holdings)) :
    (a.drop s).Balanced h := by
  obtain ⟨len, buffer, ownership, pool, grid⟩ := a
  rw [holdings, add_comm (Option.elim buffer _ _), ← add_assoc] at hs
  have hbuffer : ((buffer.map fun b => b.drop s).getD s).Balanced
      (h + pool.elim 0 Holdings.pool) := by
    cases buffer with
    | some b => exact Store.Balanced.dropHandle hs
    | none => simpa using hs
  cases pool with
  | some p =>
    have hpool := Store.Balanced.dropPoolHandle hbuffer
    cases buffer <;> exact hpool
  | none =>
    rw [Option.elim_none, add_zero] at hbuffer
    cases buffer <;> exact hbuffer

/-! ## Construction -/

theorem triple_new (e : ElementShape) (t : ScalarType) (allocator : AllocatorId) (len : Nat) :
    Triple (Holds h) (new e t allocator len)
      (fun a s => Holds (h + a.holdings) s ∧ a.pool = none) (Holds h) := by
  refine Triple.bind (triple_mapError (Buffer.triple_allocate allocator t _ false)) fun b => ?_
  refine Triple.pure fun s hs => ⟨?_, rfl⟩
  simpa [holdings] using hs

theorem triple_shared {pool : PoolId} (hpool : pool ∈ h.pools) (e : ElementShape)
    (t : ScalarType) (key : PoolKey) (len : Nat) :
    Triple (Holds h) (shared e t pool key len : Action ε (BlockArray t e))
      (fun a => Holds (h + a.holdings)) (Holds h) := by
  refine Triple.via (fun _ => Holds (h + .pool pool)) (triple_update ?_) fun _ => ?_
  · intro s hs
    exact Store.Balanced.addPoolHandle hs hpool
  · refine Triple.pure fun s hs => ?_
    simpa [holdings] using hs

theorem triple_withId {pool : PoolId} (hpool : pool ∈ h.pools) (e : ElementShape)
    (t : ScalarType) (id len : Nat) :
    Triple (Holds h) (withId e t pool id len) (fun a => Holds (h + a.holdings)) (Holds h) := by
  unfold withId
  split
  next key _ => exact triple_shared hpool e t key len
  next =>
    refine Triple.bind triple_read fun allocator => ?_
    exact (triple_new e t allocator len).conseq (fun _ hs => hs) (fun _ _ hs => hs.1)
      fun _ hs => hs

theorem triple_inContext (e : ElementShape) (t : ScalarType) (c : Context) (len : Nat) :
    Triple (Holds h) (inContext e t c len) (fun a => Holds (h + a.holdings)) (Holds h) :=
  Triple.bind (triple_new e t c.allocator len) fun _ => Triple.pure fun _ hs => hs.1

theorem triple_sharedIn {c : Context} (hpool : c.pool ∈ h.pools) (e : ElementShape)
    (t : ScalarType) (key : PoolKey) (len : Nat) :
    Triple (Holds h) (sharedIn e t c key len : Action ε (BlockArray t e))
      (fun a => Holds (h + a.holdings)) (Holds h) :=
  Triple.bind (triple_shared hpool e t key len) fun _ => Triple.pure fun _ hs => hs

/-! ## Memory -/

/-- What an array has as memory is what the users hold. -/
theorem triple_memory {a : BlockArray t e} (ha : a.HeldIn h) :
    Triple (Holds h) a.memory (fun b s => Holds h s ∧ b.allocation ∈ h.handles) (Holds h) := by
  unfold memory
  split
  next b hb => exact Triple.pure fun _ hs => ⟨hs, ha b hb⟩
  next => exact triple_fail (fun _ hs => hs) _

/-- An array that is acquired may hold more than before. -/
theorem triple_acquire (a : BlockArray t e) :
    Triple (Holds (h + a.holdings)) a.acquire (fun result => Holds (h + result.2.holdings))
      (Holds (h + a.holdings)) := by
  unfold acquire
  split
  next => exact Triple.pure fun _ hs => hs
  next b hbuffer _ =>
    refine Triple.bind (triple_mapError (Buffer.triple_acquire ?_)) fun _ =>
      Triple.pure fun _ hs => hs
    exact a.heldIn_holdings h b hbuffer
  next key pool hbuffer _ hp =>
    have hmem : pool ∈ (h + a.holdings).pools :=
      Multiset.mem_add.mpr (.inr (mem_pools_holdings.mpr hp))
    refine Triple.bind (triple_mapError (Pool.triple_acquire hmem t a.shape)) fun result => ?_
    refine Triple.pure fun s hs => ?_
    simp only [holdings_withBuffer hbuffer, ← add_assoc]
    exact hs
  next => exact triple_fail (fun _ hs => hs) _

/-! ## Transfers with the host -/

/-- A use of the memory of an array that keeps what the users hold. -/
theorem triple_onMemory {α : Type} {a : BlockArray t e} (ha : a.HeldIn h)
    {use : Buffer → Action ArrayError α}
    (huse : ∀ b, b.allocation ∈ h.handles → Triple (Holds h) (use b) (fun _ => Holds h) (Holds h)) :
    Triple (Holds h) (a.memory >>= use) (fun _ => Holds h) (Holds h) :=
  Triple.bind (triple_memory ha) fun b => Triple.given (huse b)

theorem triple_numel (a : BlockArray t e) :
    Triple (Holds h) (a.numel : Action ε Nat) (fun _ => Holds h) (Holds h) :=
  triple_checked

theorem triple_zero {a : BlockArray t e} (ha : a.HeldIn h) :
    Triple (Holds h) a.zero (fun _ => Holds h) (Holds h) :=
  triple_onMemory ha fun _ hb => triple_mapError (Buffer.triple_zero hb)

theorem triple_toHost {a : BlockArray t e} (ha : a.HeldIn h) :
    Triple (Holds h) a.toHost (fun _ => Holds h) (Holds h) := by
  refine triple_onMemory ha fun b hb => ?_
  refine Triple.bind (triple_numel a) fun count => ?_
  exact Triple.bind (triple_mapError (Buffer.triple_read hb _)) fun _ => Triple.pure fun _ hs => hs

theorem triple_ofHost {a : BlockArray t e} (ha : a.HeldIn h) (values : List (Scalar t)) :
    Triple (Holds h) (a.ofHost values) (fun _ => Holds h) (Holds h) := by
  refine Triple.bind (triple_numel a) fun expected => ?_
  refine Triple.bind (triple_ensure fun _ hs => hs) fun _ => ?_
  exact triple_onMemory ha fun b hb => triple_mapError (Buffer.triple_write hb _)

/-- An array that cannot be filled is dropped at once. -/
theorem triple_fromHost (e : ElementShape) (t : ScalarType) (allocator : AllocatorId)
    (values : List (Scalar t)) :
    Triple (Holds h) (fromHost e t allocator values) (fun a => Holds (h + a.holdings))
      (Holds h) := by
  refine Triple.bind (triple_ensure fun _ hs => hs) fun _ => ?_
  refine Triple.bind (triple_new e t allocator _) fun a => Triple.given fun hpool => ?_
  have hfill := triple_ofHost (a.heldIn_holdings h) values
  cases hbuffer : a.buffer with
  | some b =>
    have hheld : a.holdings = .handle b.allocation := by simp [holdings, hbuffer, hpool]
    rw [hheld] at hfill ⊢
    refine Triple.bind (triple_orDropHandle hfill) fun _ => Triple.pure fun s hs => ?_
    rw [hheld]
    exact hs
  | none =>
    have hheld : a.holdings = 0 := by simp [holdings, hbuffer, hpool]
    rw [hheld, add_zero] at hfill ⊢
    refine Triple.bind hfill fun _ => Triple.pure fun s hs => ?_
    rw [hheld, add_zero]
    exact hs

/-! ## Copies, launches and summaries -/

theorem triple_copyFrom {a : BlockArray t e} {source : BlockArray t f} (ha : a.HeldIn h)
    (hsource : source.HeldIn h) (index count : Nat) :
    Triple (Holds h) (a.copyFrom index source count) (fun _ => Holds h) (Holds h) := by
  refine Triple.bind (triple_numel a) fun len => ?_
  refine Triple.bind (triple_ensure fun _ hs => hs) fun _ => ?_
  refine Triple.bind (triple_numel source) fun sourceLen => ?_
  refine Triple.bind (triple_ensure fun _ hs => hs) fun _ => ?_
  split
  next => exact Triple.pure fun _ hs => hs
  next =>
    refine Triple.bind triple_checked fun bytes => ?_
    refine triple_onMemory hsource fun b hb => ?_
    refine Triple.bind (triple_mapError (Buffer.triple_view hb 0 bytes)) fun taken => ?_
    -- the views of the source and of the destination are dropped whatever the copy does
    refine triple_thenDropHandle (triple_onMemory (ha.mono _) fun b' hb' => ?_)
    refine Triple.bind triple_checked fun offset => ?_
    refine Triple.bind (triple_mapError (Buffer.triple_view hb' offset bytes)) fun given => ?_
    refine triple_thenDropHandle (triple_mapError (Buffer.triple_copyFrom ?_ ?_))
    · simp
    · simp

theorem triple_scatter {a source : BlockArray t e} {indices : BlockArray .int32 .scalar}
    (ha : a.HeldIn h) (hindices : indices.HeldIn h) (hsource : source.HeldIn h) (n : Nat) :
    Triple (Holds h) (a.scatter indices source n) (fun _ => Holds h) (Holds h) := by
  refine triple_onMemory hindices fun positions hpositions => ?_
  refine triple_onMemory hsource fun values hvalues => ?_
  refine triple_onMemory ha fun destination hdestination => ?_
  exact triple_mapError (Kernel.triple_launch .scatter t n e.block a.grid hdestination hpositions
    hvalues)

theorem triple_gather {a source : BlockArray t e} {indices : BlockArray .int32 .scalar}
    (ha : a.HeldIn h) (hindices : indices.HeldIn h) (hsource : source.HeldIn h) (start n : Nat) :
    Triple (Holds h) (a.gather start indices source n) (fun _ => Holds h) (Holds h) := by
  unfold gather
  split
  next => exact Triple.pure fun _ hs => hs
  next =>
    refine triple_onMemory hindices fun positions hpositions => ?_
    refine triple_onMemory hsource fun values hvalues => ?_
    refine triple_onMemory ha fun b hb => ?_
    refine Triple.bind triple_checked fun elementBytes => ?_
    split
    next => exact triple_fail (fun _ hs => hs) _
    next offset _ =>
      refine Triple.bind (triple_mapError (Buffer.triple_view hb offset _)) fun tail => ?_
      refine triple_thenDropHandle (triple_mapError (Kernel.triple_launch .gather t n e.block
        a.grid ?_ ?_ ?_))
      · simp
      · simp [hpositions]
      · simp [hvalues]

theorem triple_reduce {a : BlockArray t e} (ha : a.HeldIn h) (r : Reduction) :
    Triple (Holds h) (a.reduce r) (fun _ => Holds h) (Holds h) :=
  triple_onMemory ha fun _ hb => triple_mapError (Kernel.triple_launchReduction r t a.grid hb)

theorem triple_summarize {a : BlockArray t e} (ha : a.HeldIn h) :
    Triple (Holds h) a.summarize (fun _ => Holds h) (Holds h) := by
  refine Triple.bind (triple_toHost ha) fun values => ?_
  refine Triple.bind triple_checked fun byteSize => ?_
  refine triple_onMemory ha fun b hb => ?_
  refine Triple.bind triple_read fun device => ?_
  refine Triple.via (fun _ => Holds h) (triple_update ?_) fun _ => Triple.pure fun _ hs => hs
  intro s hs
  exact Store.Balanced.record hs _

end DeviceMemory.BlockArray
