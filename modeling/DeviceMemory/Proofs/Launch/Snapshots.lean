-- SUMMARY: An operand in the allocation of the destination may be replaced by an aligned view of the same bytes elsewhere, and the launch ends alike.
import DeviceMemory.Proofs.Launch.Operands

/-!
# Snapshots

An operand that shares the allocation of the destination is read from a snapshot,
which nothing but its bytes goes into. So an aligned view of the same bytes in
another allocation may take its place (`Kernel.Replaces`), and whether the launch
ends well and what it leaves in the destination stay the same, as does a fault,
unless the operand is more than whole scalars (`aliasing_unobservable`). Where the
operand itself lies does not count: a snapshot is aligned, even if the operand is
at a place that no launch could read it from.
-/

namespace DeviceMemory

open DeviceMemory.Action

namespace Kernel

variable {d : Direction} {t : ScalarType} {g : Grid} {n block : Nat} {s s₁ ready : Store}
  {destination indices indices' source source' operand operand' : Buffer}

/-! ## Replaced operands -/

/-- What may take the place of an operand: the operand itself, or for one in the allocation of
    the destination an aligned view elsewhere that has memory and the same type and size. -/
inductive Replaces (destination operand : Buffer) (s : Store) : Buffer → Prop
  | same : Replaces destination operand s operand
  | apart (operand' : Buffer) (shares : operand.allocation = destination.allocation)
      (apart : operand'.allocation ≠ destination.allocation) (allocated : operand'.isAllocated s)
      (dtype_eq : operand'.dtype = operand.dtype) (size_eq : operand'.size = operand.size)
      (aligned : operand'.offset % operand'.dtype.bytes = 0) :
      Replaces destination operand s operand'

namespace Replaces

theorem dtype_eq (h : Replaces destination operand s operand') :
    operand'.dtype = operand.dtype := by
  cases h with
  | same => rfl
  | apart _ _ _ _ dtype_eq => exact dtype_eq

theorem size_eq (h : Replaces destination operand s operand') : operand'.size = operand.size := by
  cases h with
  | same => rfl
  | apart _ _ _ _ _ size_eq => exact size_eq

theorem ragged_iff (h : Replaces destination operand s operand') :
    operand'.Ragged ↔ operand.Ragged := by
  rw [Buffer.Ragged, Buffer.Ragged, h.dtype_eq, h.size_eq]

/-- Once the destination has memory, both operands have. -/
theorem exec_acquire (h : Replaces destination operand s operand')
    (hkept : ∀ id block, s.block? id = some block → s₁.block? id = some block)
    (hdestination : destination.isAllocated s₁) :
    exec operand'.acquire s₁ = exec operand.acquire s₁ := by
  cases h with
  | same => rfl
  | apart _ shares _ allocated =>
    obtain ⟨memory, hmemory⟩ := Option.isSome_iff_exists.mp hdestination
    obtain ⟨memory', hmemory'⟩ := Option.isSome_iff_exists.mp allocated
    rw [← shares] at hmemory
    rw [Buffer.exec_acquire hmemory, Buffer.exec_acquire (hkept _ _ hmemory')]

/-- A replaced operand is refused where it fits in no snapshot, and its replacement where it is
    read. -/
theorem faults_eq (h : Replaces destination operand s operand')
    (hwhole : operand' = operand ∨ ¬operand.Ragged) :
    snapshotFault? destination operand' = snapshotFault? destination operand ∧
      operandFault? destination operand' = operandFault? destination operand := by
  have hragged := h.ragged_iff
  cases h with
  | same => exact ⟨rfl, rfl⟩
  | apart _ shares apart _ _ _ aligned =>
    have hwhole : ¬operand.Ragged := by
      refine hwhole.resolve_left ?_
      rintro rfl
      exact apart shares
    have hplace : ¬operand'.Misplaced :=
      not_or.mpr ⟨not_not.mpr aligned, fun h => hwhole (hragged.mp h)⟩
    constructor
    · rw [snapshotFault?, if_neg fun h => apart h.1, snapshotFault?, if_neg fun h => hwhole h.2]
    · rw [operandFault?_eq_none_iff.mpr fun h => hplace h.2, operandFault?, if_pos shares]

/-- A ragged operand that is replaced is oversized, and its replacement misread. -/
theorem of_ragged (h : Replaces destination operand s operand')
    (hragged : ¬(operand' = operand ∨ ¬operand.Ragged)) :
    Oversized destination operand ∧ Misread destination operand' := by
  have hiff := h.ragged_iff
  obtain ⟨hne, hragged⟩ := not_or.mp hragged
  cases h with
  | same => exact absurd rfl hne
  | apart _ shares apart =>
    exact ⟨⟨shares, not_not.mp hragged⟩, apart, .inr (hiff.mpr (not_not.mp hragged))⟩

end Replaces

/-- Replaced operands make no difference to what gets memory. -/
theorem exec_acquire_replaced (hindices : Replaces destination indices s indices')
    (hsource : Replaces destination source s source') :
    exec (do destination.acquire; source'.acquire; indices'.acquire) s =
      exec (do destination.acquire; source.acquire; indices.acquire) s := by
  refine exec_bind_congr fun _ s₁ hacquire => ?_
  obtain ⟨memory, hmemory⟩ := Store.block?_of_allocate hacquire
  have hkept (id : AllocationId) (block : Block) (hblock : s.block? id = some block) :
      s₁.block? id = some block := Store.block?_allocate hacquire hblock
  rw [exec_bind, exec_bind, hsource.exec_acquire hkept (by rw [Buffer.isAllocated, hmemory]; rfl)]
  split
  next _ s₂ hacquire' =>
    have hmemory' : s₂.block? destination.allocation = some memory :=
      Store.block?_allocate hacquire' hmemory
    exact hindices.exec_acquire
      (fun id block hblock => Store.block?_allocate hacquire' (hkept id block hblock))
      (by rw [Buffer.isAllocated, hmemory']; rfl)
  next => rfl

/-! ## Launches that end alike -/

/-- The one ends well if and only if the other does, with the same bytes in a range, and where
    the condition holds the outcomes are the same. -/
def Alike (b : Buffer) (exactly : Prop) (r r' : Except (Fault DeviceError) Unit × Store) : Prop :=
  b.bytes r.2 = b.bytes r'.2 ∧ (r.1 = .ok () ↔ r'.1 = .ok ()) ∧ (exactly → r.1 = r'.1)

theorem Alike.refl (b : Buffer) (exactly : Prop) (r : Except (Fault DeviceError) Unit × Store) :
    Alike b exactly r r :=
  ⟨rfl, .rfl, fun _ => rfl⟩

/-- Faults of launches are the same, or both launches have one. -/
theorem fault?_replaced (hindices : Replaces destination indices s indices')
    (hsource : Replaces destination source s source') :
    ((indices' = indices ∨ ¬indices.Ragged) ∧ (source' = source ∨ ¬source.Ragged) →
        fault? destination indices' source' g = fault? destination indices source g) ∧
      (¬((indices' = indices ∨ ¬indices.Ragged) ∧ (source' = source ∨ ¬source.Ragged)) →
        (∃ fault, fault? destination indices source g = some fault) ∧
          ∃ fault, fault? destination indices' source' g = some fault) := by
  constructor
  · rintro ⟨hindicesWhole, hsourceWhole⟩
    obtain ⟨hsnapshot, hread⟩ := hindices.faults_eq hindicesWhole
    obtain ⟨hsnapshot', hread'⟩ := hsource.faults_eq hsourceWhole
    rw [fault?, fault?, hsnapshot, hread, hsnapshot', hread']
  · intro hragged
    have hover : (Oversized destination source ∨ Oversized destination indices) ∧
        (Misread destination indices' ∨ Misread destination source') := by
      rcases not_and_or.mp hragged with hragged | hragged
      · exact ⟨.inr (hindices.of_ragged hragged).1, .inl (hindices.of_ragged hragged).2⟩
      · exact ⟨.inl (hsource.of_ragged hragged).1, .inr (hsource.of_ragged hragged).2⟩
    rw [← Option.ne_none_iff_exists', ← Option.ne_none_iff_exists']
    exact ⟨fun hnone => (fault?_eq_none_iff.mp hnone).1 hover.1,
      fun hnone => (fault?_eq_none_iff.mp hnone).2.2 (.inr hover.2)⟩

theorem alike_launchReady (h : Accepted d t destination indices source n block)
    (h' : Accepted d t destination indices' source' n block)
    (hs : Served destination indices source ready)
    (hs' : Served destination indices' source' ready)
    (hindices : Replaces destination indices s indices')
    (hsource : Replaces destination source s source')
    (hindicesBytes : indices'.bytes ready = indices.bytes ready)
    (hsourceBytes : source'.bytes ready = source.bytes ready) :
    Alike destination
      ((indices' = indices ∨ ¬indices.Ragged) ∧ (source' = source ∨ ¬source.Ragged))
      (exec (launchReady d t destination indices source n block g) ready)
      (exec (launchReady d t destination indices' source' n block g) ready) := by
  have hdestination := hs.destination_inside.backed
  obtain ⟨s₁, hexec, hwritten⟩ := h.endsAs_launchReady (g := g) hs
  obtain ⟨s₂, hexec', hwritten'⟩ := h'.endsAs_launchReady (g := g) hs'
  have hbytes := hwritten.bytes_eq hdestination (h.length_ending hdestination)
  have hbytes' := hwritten'.bytes_eq hdestination (h'.length_ending hdestination)
  have hresult : result d t destination indices' source' n block g ready =
      result d t destination indices source n block g ready :=
    result_congr rfl hindicesBytes hsourceBytes
  obtain ⟨hsame, hboth⟩ := fault?_replaced (g := g) hindices hsource
  rw [hresult] at hexec' hbytes'
  rw [hexec, hexec', Alike, hbytes, hbytes']
  by_cases hwhole : (indices' = indices ∨ ¬indices.Ragged) ∧ (source' = source ∨ ¬source.Ragged)
  · rw [hsame hwhole]
    exact ⟨rfl, .rfl, fun _ => rfl⟩
  · obtain ⟨⟨fault, hfault⟩, ⟨fault', hfault'⟩⟩ := hboth hwhole
    rw [hfault, hfault']
    exact ⟨rfl, iff_of_false nofun nofun, fun h => absurd h hwhole⟩

/-- An aligned view of the same bytes may take the place of operands that share the allocation
    of the destination. The destination holds the same after the launch, which ends well if
    and only if it did, and if the operands that were replaced are whole scalars it ends as
    it did. Where they lie in the allocation of the destination does not count. -/
theorem aliasing_unobservable (hindices : Replaces destination indices s indices')
    (hsource : Replaces destination source s source')
    (hserved : ∀ ready,
      exec (do destination.acquire; source.acquire; indices.acquire) s = (.ok (), ready) →
        Served destination indices source ready ∧ Served destination indices' source' ready ∧
          indices'.bytes ready = indices.bytes ready ∧ source'.bytes ready = source.bytes ready) :
    Alike destination
      ((indices' = indices ∨ ¬indices.Ragged) ∧ (source' = source ∨ ¬source.Ragged))
      (exec (launch d t destination indices source n block g) s)
      (exec (launch d t destination indices' source' n block g) s) := by
  rcases Nat.eq_zero_or_pos n with rfl | hitems
  · exact .refl _ _ (.ok (), s)
  have hchecked : checkOperands d t destination indices' source' n block =
      checkOperands d t destination indices source n block :=
    checkOperands_congr hindices.dtype_eq hindices.size_eq hsource.dtype_eq hsource.size_eq
  have hacquired := exec_acquire_replaced hindices hsource
  rw [exec_launch hitems, exec_launch hitems, hchecked]
  rcases hchecks : exec (checkOperands d t destination indices source n block) s with
    ⟨fault | _, s₁⟩
  · rw [exec_bind_of_error hchecks, exec_bind_of_error hchecks]
    exact .refl _ _ _
  rw [exec_bind_of_ok hchecks, exec_bind_of_ok hchecks]
  obtain ⟨rfl, haccepted⟩ := of_exec_checkOperands hchecks
  rw [← hchecked] at hchecks
  rcases hready : exec (do destination.acquire; source.acquire; indices.acquire) s₁ with
    ⟨fault | _, ready⟩
  · rw [exec_bind_of_error hready, exec_bind_of_error (hacquired.trans hready)]
    exact .refl _ _ _
  rw [exec_bind_of_ok hready, exec_bind_of_ok (hacquired.trans hready)]
  obtain ⟨hs, hs', hindicesBytes, hsourceBytes⟩ := hserved ready hready
  exact alike_launchReady haccepted (of_exec_checkOperands hchecks).2 hs hs' hindices hsource
    hindicesBytes hsourceBytes

/-- A store with two allocations, of three integers each. -/
def twoTriples : Store :=
  let fill : Action DeviceError Unit := do
    let first ← Buffer.allocate 0 .int32 [3] false
    first.write (Scalar.encodeAll (t := .int32) [10, 256, 0])
    let second ← Buffer.allocate 0 .int32 [3] false
    second.write (Scalar.encodeAll (t := .int32) [1, 256, 0])
  (exec fill ⟨[Stack.new .host [.recycling 1, .metered]], [], [], [], false⟩).2

/-- The source lies at an odd place behind the destination, and the other allocation begins
    with the same bytes. -/
theorem aliasing_unobservable_twoTriples :
    (exec (launch .scatter .int32 ⟨0, 0, 4, .int32, [1]⟩ ⟨1, 8, 4, .int32, [1]⟩
        ⟨0, 5, 4, .int32, [1]⟩ 1 1 ⟨1⟩) twoTriples).1 =
      (exec (launch .scatter .int32 ⟨0, 0, 4, .int32, [1]⟩ ⟨1, 8, 4, .int32, [1]⟩
        ⟨1, 0, 4, .int32, [1]⟩ 1 1 ⟨1⟩) twoTriples).1 := by
  have hready : exec (do
      Buffer.acquire ⟨0, 0, 4, .int32, [1]⟩
      Buffer.acquire ⟨0, 5, 4, .int32, [1]⟩
      Buffer.acquire ⟨1, 8, 4, .int32, [1]⟩) twoTriples = (.ok (), twoTriples) := rfl
  have hindices : Replaces ⟨0, 0, 4, .int32, [1]⟩ ⟨1, 8, 4, .int32, [1]⟩ twoTriples
      ⟨1, 8, 4, .int32, [1]⟩ := .same
  have hsource : Replaces ⟨0, 0, 4, .int32, [1]⟩ ⟨0, 5, 4, .int32, [1]⟩ twoTriples
      ⟨1, 0, 4, .int32, [1]⟩ := .apart _ rfl (by decide) rfl rfl rfl rfl
  refine (aliasing_unobservable hindices hsource ?_).2.2 ⟨.inl rfl, .inr (by decide)⟩
  intro ready h
  rw [hready] at h
  cases h
  refine ⟨?_, ?_, rfl, by decide⟩
  · exact ⟨⟨_, rfl, by decide, by decide⟩, ⟨_, rfl, by decide, by decide⟩,
      ⟨_, rfl, by decide, by decide⟩, by decide⟩
  · exact ⟨⟨_, rfl, by decide, by decide⟩, ⟨_, rfl, by decide, by decide⟩,
      ⟨_, rfl, by decide, by decide⟩, by decide⟩

/-- At the same odd place of the other allocation, a view of the same bytes is refused. -/
theorem launch_sees_misplaced_aliases :
    Buffer.bytes ⟨0, 5, 4, .int32, [1]⟩ twoTriples =
        Buffer.bytes ⟨1, 5, 4, .int32, [1]⟩ twoTriples ∧
      (∃ s', exec (launch .scatter .int32 ⟨0, 0, 4, .int32, [1]⟩ ⟨1, 8, 4, .int32, [1]⟩
          ⟨0, 5, 4, .int32, [1]⟩ 1 1 ⟨1⟩) twoTriples = (.ok (), s') ∧
        Buffer.bytes ⟨0, 0, 4, .int32, [1]⟩ s' = [11, 0, 0, 0]) ∧
      ∃ s', exec (launch .scatter .int32 ⟨0, 0, 4, .int32, [1]⟩ ⟨1, 8, 4, .int32, [1]⟩
          ⟨1, 5, 4, .int32, [1]⟩ 1 1 ⟨1⟩) twoTriples =
            (.error (.error (.layout "Int32" 5 4)), s') ∧
        Buffer.bytes ⟨0, 0, 4, .int32, [1]⟩ s' = [10, 0, 0, 0] :=
  ⟨by decide, ⟨_, rfl, by decide⟩, ⟨_, rfl, by decide⟩⟩

end Kernel

end DeviceMemory
