-- SUMMARY: How a launch whose operands were accepted ends: stopped by the place of an operand, or with what its items make of what the operands held.
import DeviceMemory.Proofs.Buffer.Copies
import DeviceMemory.Proofs.Launch.Checks

/-!
# Operands of a launch

Once its operands were accepted and have memory, a launch has one way to end that
they and its grid decide (`Accepted.endsAs_launchReady`). Either something stops it
before its items run (`Kernel.fault?`): an operand that no snapshot can be made of,
a grid without threads, or a range that does not hold whole, aligned scalars. Then
no byte changes. Or its items run on what all operands held before. In both cases
only the range of the destination is written.
-/

namespace DeviceMemory

open DeviceMemory.Action

namespace Kernel

open Launch

variable {d : Direction} {t : ScalarType} {g : Grid} {n block : Nat} {s s₁ ready : Store}
  {destination indices source operand operand' : Buffer} {operands : List Buffer}

/-! ## Results -/

theorem length_accumulate {old values : List (Scalar t)} {positions : List (Scalar .int32)} :
    (accumulate d g n block old positions values).values.length = old.length := by
  have hscatter (old values : List (Scalar t)) (positions : List (Scalar .int32)) :
      (scatter g block old positions values).values.length = old.length := by
    rw [scatter]
    split
    next => rfl
    next => simp
  have hgather (old values : List (Scalar t)) (positions : List (Scalar .int32)) :
      (gather g block old positions values).values.length = old.length := by
    rw [gather]
    split
    next => rfl
    next => simp
  cases d with
  | scatter => exact hscatter _ _ _
  | gather =>
    change ((gather g block _ _ _).values ++ _).length = _
    rw [List.length_append, hgather, ← List.length_append, List.take_append_drop]

/-- What a launch makes of what its operands hold. -/
def result (d : Direction) (t : ScalarType) (destination indices source : Buffer) (n block : Nat)
    (g : Grid) (s : Store) : Progress t :=
  accumulate d g n block (destination.values t s) (indices.values .int32 s) (source.values t s)

/-- A launch makes the same of operands that hold the same. -/
theorem result_congr {destination' indices' source' : Buffer}
    (hdestination : destination'.bytes s₁ = destination.bytes s)
    (hindices : indices'.bytes s₁ = indices.bytes s)
    (hsource : source'.bytes s₁ = source.bytes s) :
    result d t destination' indices' source' n block g s₁ =
      result d t destination indices source n block g s := by
  simp only [result, Buffer.values, hdestination, hindices, hsource]

/-- How a launch ends that got this far. -/
def outcome (progress : Progress t) : Except (Fault DeviceError) Unit :=
  if progress.finished then .ok () else .error .trap

theorem outcome_eq_ok_iff {progress : Progress t} :
    outcome progress = .ok () ↔ progress.finished = true := by
  rw [outcome]
  split
  next hfinished => exact iff_of_true rfl hfinished
  next hstopped => exact iff_of_false nofun hstopped

theorem outcome_eq_trap_iff {progress : Progress t} :
    outcome progress = .error .trap ↔ ¬progress.finished = true := by
  rw [outcome]
  split
  next hfinished => exact iff_of_false nofun (not_not.mpr hfinished)
  next hstopped => exact iff_of_true rfl hstopped

/-- Items stop a launch with a trap, and with no other fault. -/
theorem outcome_ne_error (progress : Progress t) (cause : DeviceError) :
    outcome progress ≠ .error (.error cause) := by
  rw [outcome]
  split
  · nofun
  · nofun

theorem length_encodeAll_result (d : Direction) (indices source : Buffer) (n block : Nat) (g : Grid)
    (hbacked : destination.Backed s) (hlaid : destination.LaidOut t) :
    (Scalar.encodeAll (result d t destination indices source n block g s).values).length =
      destination.size := by
  rw [Scalar.encodeAll_length, result, length_accumulate, hbacked.length_values hlaid.dtype,
    hlaid.numel_mul]

theorem length_itemized (hdestination : destination.Backed s) (hdtype : destination.dtype = t)
    (hsource : source.Backed s) (hdtype' : source.dtype = t) :
    (d.itemized (destination.values t s) (source.values t s)).length =
      (d.itemized destination source).numel := by
  cases d with
  | scatter => exact hsource.length_values hdtype'
  | gather => exact hdestination.length_values hdtype

theorem length_addressed (hdestination : destination.Backed s) (hdtype : destination.dtype = t)
    (hsource : source.Backed s) (hdtype' : source.dtype = t) :
    (d.addressed (destination.values t s) (source.values t s)).length =
      (d.addressed destination source).numel := by
  cases d with
  | scatter => exact hdestination.length_values hdtype
  | gather => exact hsource.length_values hdtype'

/-! ## What stops a launch -/

/-- An operand is to be read from a snapshot and does not fit in it. -/
def Oversized (destination operand : Buffer) : Prop :=
  operand.allocation = destination.allocation ∧ operand.Ragged

instance (destination operand : Buffer) : Decidable (Oversized destination operand) :=
  inferInstanceAs (Decidable (_ ∧ _))

/-- An operand is to be read from its range, which does not hold whole, aligned scalars. -/
def Misread (destination operand : Buffer) : Prop :=
  operand.allocation ≠ destination.allocation ∧ operand.Misplaced

instance (destination operand : Buffer) : Decidable (Misread destination operand) :=
  inferInstanceAs (Decidable (_ ∧ _))

/-- A snapshot has room for the whole scalars of an operand, and no more. -/
def snapshotFault? (destination operand : Buffer) : Option (Fault DeviceError) :=
  if Oversized destination operand then
    some (.error (.sizeMismatch operand.wholeSize operand.size))
  else none

/-- No blocks cover the items where blocks have no threads. -/
def gridFault? (g : Grid) : Option (Fault DeviceError) :=
  if g.threadsPerBlock = 0 then some .trap else none

/-- A range is read if it holds whole, aligned scalars. -/
def layoutFault? (b : Buffer) : Option (Fault DeviceError) :=
  if b.Misplaced then some (.error (.layout b.dtype.name b.offset b.size)) else none

/-- An operand is read from its range, or from a snapshot, which is never misplaced. -/
def operandFault? (destination operand : Buffer) : Option (Fault DeviceError) :=
  if operand.allocation = destination.allocation then none else layoutFault? operand

/-- What stops a launch whose operands were accepted before its items run. -/
def fault? (destination indices source : Buffer) (g : Grid) : Option (Fault DeviceError) :=
  (snapshotFault? destination source).or <|
    (snapshotFault? destination indices).or <|
      (gridFault? g).or <|
        (layoutFault? destination).or <|
          (operandFault? destination indices).or <|
            operandFault? destination source

theorem operandFault?_of_misread (h : Misread destination operand) :
    operandFault? destination operand =
      some (.error (.layout operand.dtype.name operand.offset operand.size)) := by
  rw [operandFault?, if_neg h.1, layoutFault?, if_pos h.2]

theorem operandFault?_eq_none_iff :
    operandFault? destination operand = none ↔ ¬Misread destination operand := by
  constructor
  · intro hnone hread
    rw [operandFault?_of_misread hread] at hnone
    cases hnone
  · intro hread
    rw [operandFault?]
    split
    next => rfl
    next hapart => exact if_neg fun hplace => hread ⟨hapart, hplace⟩

/-- All that lets a launch come to its items. -/
theorem fault?_eq_none_iff :
    fault? destination indices source g = none ↔
      ¬(Oversized destination source ∨ Oversized destination indices) ∧ g.threadsPerBlock ≠ 0 ∧
        ¬(destination.Misplaced ∨ Misread destination indices ∨ Misread destination source) := by
  have hsnapshot (operand : Buffer) :
      snapshotFault? destination operand = none ↔ ¬Oversized destination operand := by
    simp [snapshotFault?]
  have hgrid : gridFault? g = none ↔ g.threadsPerBlock ≠ 0 := by simp [gridFault?]
  have hlayout : layoutFault? destination = none ↔ ¬destination.Misplaced := by
    simp [layoutFault?]
  simp only [fault?, Option.or_eq_none_iff, hsnapshot, hgrid, hlayout, operandFault?_eq_none_iff,
    not_or, and_assoc]

/-- An operand that does not fit in its snapshot stops every launch. -/
theorem fault?_of_oversized
    (hover : Oversized destination source ∨ Oversized destination indices) :
    ∃ expected actual,
      fault? destination indices source g = some (.error (.sizeMismatch expected actual)) := by
  rw [fault?]
  by_cases hsource : Oversized destination source
  · rw [snapshotFault?, if_pos hsource, Option.some_or]
    exact ⟨_, _, rfl⟩
  · rw [snapshotFault?, if_neg hsource, Option.none_or, snapshotFault?,
      if_pos (hover.resolve_left hsource), Option.some_or]
    exact ⟨_, _, rfl⟩

/-- Where all operands fit, a place that is read stops a launch on a grid with threads. -/
theorem fault?_of_misplaced (hthreads : g.threadsPerBlock ≠ 0)
    (hfits : ¬(Oversized destination source ∨ Oversized destination indices))
    (hplace : destination.Misplaced ∨ Misread destination indices ∨ Misread destination source) :
    ∃ name offset size,
      fault? destination indices source g = some (.error (.layout name offset size)) := by
  obtain ⟨hsource, hindices⟩ := not_or.mp hfits
  rw [fault?, snapshotFault?, if_neg hsource, snapshotFault?, if_neg hindices, gridFault?,
    if_neg hthreads, Option.none_or, Option.none_or, Option.none_or]
  by_cases hdestination : destination.Misplaced
  · rw [layoutFault?, if_pos hdestination, Option.some_or]
    exact ⟨_, _, _, rfl⟩
  rw [layoutFault?, if_neg hdestination, Option.none_or]
  by_cases hread : Misread destination indices
  · rw [operandFault?_of_misread hread, Option.some_or]
    exact ⟨_, _, _, rfl⟩
  · rw [operandFault?_eq_none_iff.mpr hread, Option.none_or,
      operandFault?_of_misread ((hplace.resolve_left hdestination).resolve_left hread)]
    exact ⟨_, _, _, rfl⟩

/-! ## Endings -/

/-- How a launch ends: its outcome, and the bytes that the destination holds then. -/
structure Ending where
  outcome : Except (Fault DeviceError) Unit
  bytes : List UInt8

/-- A launch that is stopped leaves the old bytes, and one that runs what its items made. -/
def Ending.of (stop : Option (Fault DeviceError)) (old : List UInt8) (progress : Progress t) :
    Ending :=
  match stop with
  | some fault => ⟨.error fault, old⟩
  | none => ⟨Kernel.outcome progress, Scalar.encodeAll progress.values⟩

/-- The action ends so, and writes nothing but the destination. -/
def EndsAs (destination : Buffer) (act : Action DeviceError Unit) (s : Store) (e : Ending) :
    Prop :=
  ∃ s', exec act s = (e.outcome, s') ∧ destination.Overwritten e.bytes s s'

variable {act : Action DeviceError Unit} {stop : Option (Fault DeviceError)}
  {fault : Fault DeviceError} {progress : Progress t}

/-- An action that ends at a fault at once has written nothing. -/
theorem endsAs_of_fault (hdestination : destination.Backed s)
    (hact : exec act s = (.error fault, s)) :
    EndsAs destination act s (.of (some fault) (destination.bytes s) progress) :=
  ⟨s, hact, hdestination.overwritten_same⟩

/-! ## Operands as they are -/

theorem exec_scalars {b : Buffer} (hb : b.Backed s) (hlaid : b.LaidOut t) :
    exec (scalars t b) s = (.ok (b.values t s), s) := by
  rw [scalars, exec_bind_of_ok hb.exec_load, exec_ensure_bind ⟨hlaid.aligned, hlaid.whole⟩]
  rfl

theorem exec_scalars_of_misplaced {b : Buffer} (hb : b.Backed s) (hdtype : b.dtype = t)
    (hplace : b.Misplaced) :
    exec (scalars t b) s = (.error (.error (.layout b.dtype.name b.offset b.size)), s) := by
  subst hdtype
  have hlayout : ¬(b.offset % b.dtype.bytes = 0 ∧ b.size % b.dtype.bytes = 0) := by
    rw [not_and_or]
    exact hplace
  rw [scalars, exec_bind_of_ok hb.exec_load, exec_ensure_bind_of_not hlayout]

/-- Scalars are read from a range in memory that holds whole, aligned ones. -/
theorem of_exec_scalars {b : Buffer} {values : List (Scalar t)}
    (h : exec (scalars t b) s = (.ok values, s₁)) :
    b.Backed s ∧ (b.offset % t.bytes = 0 ∧ b.size % t.bytes = 0) ∧ values = b.values t s ∧
      s₁ = s := by
  obtain ⟨bytes, s₂, hload, hrest⟩ := exists_of_exec_bind h
  obtain ⟨hbacked, rfl, rfl⟩ := Buffer.of_exec_load hload
  obtain ⟨hlayout, hpure⟩ := of_exec_ensure_bind hrest
  cases hpure
  exact ⟨hbacked, hlayout, rfl, rfl⟩

/-- The number of blocks is there unless the grid stops the launch. -/
theorem endsAs_blocks_bind {next : Nat → Action DeviceError Unit}
    (hdestination : destination.Backed s)
    (hnext : ∀ blocks, EndsAs destination (next blocks) s
      (.of stop (destination.bytes s) progress)) :
    EndsAs destination (Action.checked (g.blocks? n) >>= next) s
      (.of ((gridFault? g).or stop) (destination.bytes s) progress) := by
  by_cases hthreads : g.threadsPerBlock = 0
  · have hblocks : g.blocks? n = none := if_pos hthreads
    rw [gridFault?, if_pos hthreads, Option.some_or]
    refine endsAs_of_fault hdestination (exec_bind_of_error ?_)
    rw [hblocks]
    rfl
  · have hblocks : g.blocks? n = some (Word.ceilDiv n g.threadsPerBlock) := if_neg hthreads
    rw [gridFault?, if_neg hthreads, Option.none_or, EndsAs, exec_checked_bind hblocks]
    exact hnext _

/-- The scalars of a range are there unless its place stops the launch. -/
theorem endsAs_scalars_bind {t' : ScalarType} {b : Buffer}
    {next : List (Scalar t') → Action DeviceError Unit} (hdestination : destination.Backed s)
    (hb : b.Backed s) (hdtype : b.dtype = t')
    (hnext : b.LaidOut t' → EndsAs destination (next (b.values t' s)) s
      (.of stop (destination.bytes s) progress)) :
    EndsAs destination (scalars t' b >>= next) s
      (.of ((layoutFault? b).or stop) (destination.bytes s) progress) := by
  by_cases hplace : b.Misplaced
  · rw [layoutFault?, if_pos hplace, Option.some_or]
    exact endsAs_of_fault hdestination
      (exec_bind_of_error (exec_scalars_of_misplaced hb hdtype hplace))
  · have hlaid := Buffer.laidOut_of_not_misplaced hdtype hplace
    rw [layoutFault?, if_neg hplace, Option.none_or, EndsAs,
      exec_bind_of_ok (exec_scalars hb hlaid)]
    exact hnext hlaid

/-- A launch on operands as they are is stopped by its grid or by the place of an operand, or
    writes its result. -/
theorem endsAs_launchApart (hdestination : destination.Backed s) (hdtype : destination.dtype = t)
    (hindices : indices.Backed s) (hindicesType : indices.dtype = .int32)
    (hsource : source.Backed s) (hsourceType : source.dtype = t) :
    EndsAs destination (launchApart d t destination indices source n block g) s
      (.of ((gridFault? g).or <| (layoutFault? destination).or <|
          (layoutFault? indices).or <| layoutFault? source)
        (destination.bytes s) (result d t destination indices source n block g s)) := by
  rw [← Option.or_none (o := layoutFault? source)]
  refine endsAs_blocks_bind hdestination fun _ => ?_
  refine endsAs_scalars_bind hdestination hdestination hdtype fun hlaid => ?_
  refine endsAs_scalars_bind hdestination hindices hindicesType fun _ => ?_
  refine endsAs_scalars_bind hdestination hsource hsourceType fun _ => ?_
  have hlength := length_encodeAll_result d indices source n block g hdestination hlaid
  refine ⟨_, ?_, Buffer.overwritten_overwrite⟩
  simp only [result] at hlength ⊢
  rw [exec_bind_of_ok (hdestination.exec_store hlength)]
  simp only [Ending.of, outcome]
  split
  · rfl
  · rfl

/-! ## Operands that share the allocation of the destination -/

/-- An operand that stands for another one in a later store: it holds the same, lies in another
    allocation than the destination, and is refused where the other one is. -/
structure Stands (destination operand operand' : Buffer) (s s₁ : Store) : Prop where
  extended : s.Extends s₁
  inside : operand'.Inside s₁
  apart : operand'.allocation ≠ destination.allocation
  dtype_eq : operand'.dtype = operand.dtype
  size_eq : operand'.size = operand.size
  bytes_eq : operand'.bytes s₁ = operand.bytes s
  layoutFault?_eq : layoutFault? operand' = operandFault? destination operand

/-- A snapshot of whole scalars stands for the operand that it was made of. -/
theorem stands_of_copied (hdestination : destination.Backed s)
    (hshares : operand.allocation = destination.allocation) (hwhole : ¬operand.Ragged)
    (hcopied : operand.Copied operand' s s₁) : Stands destination operand operand' s s₁ := by
  obtain ⟨memory, hmemory, -⟩ := hdestination
  obtain ⟨a, ha, -⟩ := Buffer.exists_of_block? hmemory
  have hlt : destination.allocation < s.allocations.length := (List.getElem?_eq_some_iff.mp ha).1
  refine ⟨hcopied.extended, hcopied.inside, ?_, ?_, ?_, hcopied.bytes_eq, ?_⟩
  · rw [hcopied.eq_whole]
    exact Nat.ne_of_gt hlt
  · rw [hcopied.eq_whole]
    rfl
  · rw [hcopied.eq_whole]
    rfl
  · rw [operandFault?, if_pos hshares, hcopied.eq_whole]
    exact if_neg (not_or.mpr ⟨not_not.mpr (Nat.zero_mod _), hwhole⟩)

/-- The requests for snapshots that a launch comes to make. -/
def snapshotRequests (destination : Buffer) : List Buffer → Store → List (AllocatorId × Nat)
  | [], _ => []
  | operand :: operands, s =>
    if operand.allocation = destination.allocation then
      (operand.allocator s, operand.wholeSize) ::
        if operand.Ragged then [] else snapshotRequests destination operands s
    else snapshotRequests destination operands s

/-- What comes of an operand that is to be used: it is refused, or another one stands for it
    until it is left. The equations hold for all uses, so that two of them can be compared. -/
inductive OperandUse (destination operand : Buffer) (operands : List Buffer) (s : Store) : Prop
  | refused (fault : Fault DeviceError) (s₁ : Store)
      (refusal : snapshotFault? destination operand = some fault)
      (exec_eq : ∀ use : Buffer → Action DeviceError Unit,
        exec (withOperand destination operand use) s = (.error fault, s₁))
      (same : destination.Overwritten (destination.bytes s) s s₁)
  | used (operand' : Buffer) (s₁ : Store) (leave : Store → Store)
      (unrefused : snapshotFault? destination operand = none)
      (stands : Stands destination operand operand' s s₁)
      (granted : s₁.grants (snapshotRequests destination operands s) = true)
      (exec_eq : ∀ use : Buffer → Action DeviceError Unit,
        exec (withOperand destination operand use) s =
          ((exec (use operand') s₁).1, leave (exec (use operand') s₁).2))
      (left : ∀ bytes s₂, destination.Overwritten bytes s₁ s₂ →
        destination.Overwritten bytes s (leave s₂))

theorem operandUse (hdestination : destination.Inside s) (hoperand : operand.Inside s)
    (hgrants : s.grants (snapshotRequests destination (operand :: operands) s) = true) :
    OperandUse destination operand operands s := by
  rw [snapshotRequests] at hgrants
  by_cases hshares : operand.allocation = destination.allocation
  · rw [if_pos hshares] at hgrants
    obtain ⟨block, s', halloc, hgrants⟩ := Store.grants_cons.mp hgrants
    by_cases hragged : operand.Ragged
    · obtain ⟨s₁, hdetach, hsame⟩ := hoperand.detach_ragged hragged halloc hdestination.backed
      refine .refused _ s₁ (if_pos ⟨hshares, hragged⟩) (fun use => ?_) hsame
      rw [withOperand, if_pos hshares, exec_bind_of_error hdetach]
    · rw [if_neg hragged] at hgrants
      obtain ⟨copy, s₁, hdetach, hcopied, hallocators⟩ := hoperand.detach_whole hragged halloc
      refine .used copy s₁ (·.dropHandle copy.allocation) (if_neg fun h => hragged h.2)
        (stands_of_copied hdestination.backed hshares hragged hcopied) ?_ ?_ ?_
      · rwa [Store.grants_congr _ hallocators]
      · intro use
        rw [withOperand, if_pos hshares, exec_bind_of_ok hdetach]
        exact exec_thenDrop rfl _
      · exact fun _ _ hwritten => hcopied.retire hdestination.backed hwritten
  · rw [if_neg hshares] at hgrants
    refine .used operand s id (if_neg fun h => hshares h.1) ?_ hgrants (fun use => ?_)
      fun _ _ hwritten => hwritten
    · exact ⟨.refl s, hoperand, hshares, rfl, rfl, rfl, (if_neg hshares).symm⟩
    · rw [withOperand, if_neg hshares]
      rfl

/-- What uses an operand ends as with all that stand for it, unless the operand is refused. -/
theorem OperandUse.endsAs {use : Buffer → Action DeviceError Unit}
    (h : OperandUse destination operand operands s)
    (huse : ∀ operand' s₁, Stands destination operand operand' s s₁ →
      s₁.grants (snapshotRequests destination operands s) = true →
        EndsAs destination (use operand') s₁ (.of stop (destination.bytes s) progress)) :
    EndsAs destination (withOperand destination operand use) s
      (.of ((snapshotFault? destination operand).or stop) (destination.bytes s) progress) := by
  cases h with
  | refused fault s₁ refusal exec_eq same =>
    rw [refusal]
    exact ⟨s₁, exec_eq use, same⟩
  | used operand' s₁ leave unrefused stands granted exec_eq left =>
    obtain ⟨s₂, hexec, hwritten⟩ := huse operand' s₁ stands granted
    rw [unrefused, Option.none_or]
    refine ⟨leave s₂, ?_, left _ _ hwritten⟩
    rw [exec_eq, hexec]

/-- What does the same with all that stand for an operand does the same with it. -/
theorem OperandUse.exec_congr {use use' : Buffer → Action DeviceError Unit}
    (h : OperandUse destination operand operands s)
    (huse : ∀ operand' s₁, Stands destination operand operand' s s₁ →
      s₁.grants (snapshotRequests destination operands s) = true →
        exec (use operand') s₁ = exec (use' operand') s₁) :
    exec (withOperand destination operand use) s =
      exec (withOperand destination operand use') s := by
  cases h with
  | refused fault s₁ refusal exec_eq same => rw [exec_eq, exec_eq]
  | used operand' s₁ leave unrefused stands granted exec_eq left =>
    rw [exec_eq, exec_eq, huse operand' s₁ stands granted]

theorem snapshotRequests_extends (hs : s.Extends s₁) (hoperand : operand.Backed s) :
    snapshotRequests destination [operand] s₁ = snapshotRequests destination [operand] s := by
  rw [snapshotRequests, snapshotRequests, hoperand.allocator_extends hs]
  rfl

/-! ## Launches -/

/-- The operands lie in memory, and memory for the snapshots that a launch makes is granted. -/
structure Served (destination indices source : Buffer) (s : Store) : Prop where
  destination_inside : destination.Inside s
  indices_inside : indices.Inside s
  source_inside : source.Inside s
  snapshots_granted : s.grants (snapshotRequests destination [source, indices] s) = true

/-- The part of a launch that comes once its operands were accepted and have memory. -/
def launchReady (d : Direction) (t : ScalarType) (destination indices source : Buffer)
    (n block : Nat) (g : Grid) : Action DeviceError Unit :=
  withOperand destination source fun source =>
    withOperand destination indices fun indices =>
      launchApart d t destination indices source n block g

/-- A launch with items checks its operands, gives them memory and goes on. -/
theorem exec_launch (hitems : 1 ≤ n) :
    exec (launch d t destination indices source n block g) s =
      exec (checkOperands d t destination indices source n block >>= fun _ =>
        (do destination.acquire; source.acquire; indices.acquire) >>= fun _ =>
          launchReady d t destination indices source n block g) s := by
  rw [launch, if_neg (Nat.ne_of_gt hitems)]
  simp only [bind_assoc]
  rfl

theorem Accepted.exec_launch_ready (h : Accepted d t destination indices source n block)
    (hitems : 1 ≤ n)
    (hready : exec (do destination.acquire; source.acquire; indices.acquire) s = (.ok (), ready)) :
    exec (launch d t destination indices source n block g) s =
      exec (launchReady d t destination indices source n block g) ready := by
  rw [exec_launch hitems, exec_bind_of_ok h.exec_checkOperands, exec_bind_of_ok hready]

/-- A launch ends as its operands and its grid say. Whatever overlaps, the operands that count
    are those from before it. -/
theorem Accepted.endsAs_launchReady (h : Accepted d t destination indices source n block)
    (hs : Served destination indices source s) :
    EndsAs destination (launchReady d t destination indices source n block g) s
      (.of (fault? destination indices source g) (destination.bytes s)
        (result d t destination indices source n block g s)) := by
  obtain ⟨hdestination, hindices, hsource, hgrants⟩ := hs
  -- the source first, as the launch asks for its snapshot first
  refine (operandUse hdestination hsource hgrants).endsAs fun source' s₁ hsource' hgrants => ?_
  have hs₁ := hsource'.extended
  have hdestination₁ := hdestination.of_extends hs₁
  rw [← snapshotRequests_extends hs₁ hindices.backed] at hgrants
  rw [← hdestination.backed.bytes_extends hs₁]
  refine (operandUse hdestination₁ (hindices.of_extends hs₁) hgrants).endsAs
    fun indices' s₂ hindices' _ => ?_
  have hs₂ := hindices'.extended
  have hsource₂ := hsource'.inside.of_extends hs₂
  have hresult : result d t destination indices' source' n block g s₂ =
      result d t destination indices source n block g s := by
    refine result_congr ?_ ?_ ?_
    · rw [hdestination₁.backed.bytes_extends hs₂, hdestination.backed.bytes_extends hs₁]
    · rw [hindices'.bytes_eq, hindices.backed.bytes_extends hs₁]
    · rw [hsource'.inside.backed.bytes_extends hs₂, hsource'.bytes_eq]
  rw [← hresult, ← hindices'.layoutFault?_eq, ← hsource'.layoutFault?_eq,
    ← hdestination₁.backed.bytes_extends hs₂]
  exact endsAs_launchApart (hdestination₁.of_extends hs₂).backed h.destination_dtype
    hindices'.inside.backed (hindices'.dtype_eq.trans h.indices_dtype)
    hsource₂.backed (hsource'.dtype_eq.trans h.source_dtype)

/-- What the destination holds at the end fills its range. -/
theorem Accepted.length_ending (h : Accepted d t destination indices source n block)
    (hdestination : destination.Backed s) :
    (Ending.of (fault? destination indices source g) (destination.bytes s)
      (result d t destination indices source n block g s)).bytes.length = destination.size := by
  cases hfault : fault? destination indices source g with
  | some fault => exact hdestination.length_bytes
  | none =>
    obtain ⟨-, -, hplace⟩ := fault?_eq_none_iff.mp hfault
    have hlaid : destination.LaidOut t :=
      Buffer.laidOut_of_not_misplaced h.destination_dtype fun hnot => hplace (.inl hnot)
    exact length_encodeAll_result d indices source n block g hdestination hlaid

end Kernel

end DeviceMemory
