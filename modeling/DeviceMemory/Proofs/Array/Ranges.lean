-- SUMMARY: What the range errors of array copies and gathers say: which range of which array, in which units, and whether it can be worded.
import DeviceMemory.Proofs.Buffer.Contents
import DeviceMemory.Array.Accumulate
import DeviceMemory.Array.Transfer
import DeviceMemory.Termination

/-!
# Range errors

A copy and a gather each build range errors of their own. A copy counts scalars: it
reports the offset in scalars, cut off at the greatest word, and the number of scalars of
the array that is too short. A gather counts elements, and reports only an offset in bytes
that does not fit in a word; what else lies outside is refused by the view or by the launch.
`range_errors_exact` says when there is such an error and what is in it, for every array,
offset and count. The end of the range is not always a word, and then the error has no
wording.
-/

namespace DeviceMemory

/-! ## Causes of failure -/

namespace Action

variable {ε δ α β : Type} {P : ε → Prop}

/-- Every cause that the action fails with is one of these. -/
def FailsWith (P : ε → Prop) (act : Action ε α) : Prop :=
  ∀ ⦃s s' : Store⦄ ⦃cause : ε⦄, exec act s = (.error (.error cause), s') → P cause

namespace FailsWith

theorem pure (a : α) : (Pure.pure a : Action ε α).FailsWith P := fun _ _ _ h => nomatch h

theorem fail {cause : ε} (h : P cause) : (Action.fail cause : Action ε α).FailsWith P := by
  rintro s _ _ ⟨⟩
  exact h

theorem checked (value : Option α) : (Action.checked value : Action ε α).FailsWith P := by
  rintro s s' cause h
  rw [exec_checked] at h
  cases value <;> cases h

theorem bind {act : Action ε α} {next : α → Action ε β} (hact : act.FailsWith P)
    (hnext : ∀ a, (next a).FailsWith P) : (act >>= next).FailsWith P := by
  intro s s' cause h
  rw [exec_bind] at h
  rcases hrun : exec act s with ⟨fault | a, s₁⟩
  · rw [hrun] at h
    cases h
    exact hact hrun
  · rw [hrun] at h
    exact hnext a h

/-- Seen from an enclosing operation, a cause is one of those that the operation makes of it. -/
theorem mapError {P : δ → Prop} {f : ε → δ} (h : ∀ cause, P (f cause)) (act : Action ε α) :
    (Action.mapError f act).FailsWith P := by
  intro s s' cause hexec
  rcases hrun : exec act s with ⟨fault | a, s₁⟩
  · rw [exec_mapError_of_error hrun] at hexec
    cases fault <;> cases hexec
    exact h _
  · rw [exec_mapError_eq_ok_iff.mpr hrun] at hexec
    cases hexec

theorem thenDrop {act : Action ε α} (h : act.FailsWith P) (id : AllocationId) :
    (act.thenDrop id).FailsWith P := by
  intro s s' cause hexec
  obtain ⟨s₁, hrun, -⟩ := of_exec_thenDrop hexec
  exact h hrun

end FailsWith

end Action

/-- The cause is about no range of scalars. -/
def ArrayError.NoRange (cause : ArrayError) : Prop :=
  ∀ operation start count len, cause ≠ .outOfRange operation start count len

/-- A process ends at a range error without a report exactly if the end of the range is no word. -/
theorem Termination.ofArray_outOfRange_iff {operation : String} {start count len : Nat} :
    ofArray (.outOfRange operation start count len) = ⟨101, none⟩ ↔
      Word.limit ≤ start + count := by
  rcases hstop : Word.add? start count with _ | stop
  · have hpast := Word.add?_eq_none_iff.mp hstop
    simp [ofArray, ArrayError.message?, hstop, hpast]
  · have hlt : start + count < Word.limit := (Word.add?_eq_some_iff.mp hstop).1
    simp [ofArray, ofMessage, ArrayError.message?, hstop, hlt]

namespace BlockArray

open DeviceMemory.Action

variable {t : ScalarType} {e f : ElementShape} {a values : BlockArray t e}
  {source : BlockArray t f} {indices : BlockArray .int32 .scalar} {index count n : Nat}
  {operation : String} {start asked len : Nat} {s s' : Store}

theorem failsWith_memory (a : BlockArray t e) : a.memory.FailsWith ArrayError.NoRange := by
  rw [memory]
  split
  next => exact .pure _
  next => exact .fail nofun

theorem failsWith_device {α : Type} (act : Action DeviceError α) :
    (act.mapError ArrayError.device).FailsWith ArrayError.NoRange :=
  .mapError (fun _ => nofun) act

theorem exec_memory_bind {β : Type} {b : Buffer} (hb : a.buffer = some b)
    (next : Buffer → Action ArrayError β) : exec (a.memory >>= next) s = exec (next b) s := by
  refine exec_bind_of_ok ?_
  rw [memory, hb]
  rfl

/-- A use of the memory of an array reports a range only if there is memory. -/
theorem of_exec_memory_bind_outOfRange {β : Type} {next : Buffer → Action ArrayError β}
    (h : exec (a.memory >>= next) s =
      (.error (.error (.outOfRange operation start asked len)), s')) :
    a.isAcquired ∧ ∃ b, exec (next b) s =
      (.error (.error (.outOfRange operation start asked len)), s') := by
  rcases hb : a.buffer with _ | b
  · rw [memory, hb] at h
    cases h
  · exact ⟨by rw [isAcquired, hb, Option.isSome_some], b, (exec_memory_bind hb next).symm.trans h⟩

/-! ## Copies -/

theorem lt_of_numel? {len : Nat} (h : a.numel? = some len) : len < Word.limit := by
  obtain ⟨hlt, rfl⟩ := Word.mul?_eq_some_iff.mp h
  exact hlt

theorem rangeFits_iff (hlen : len < Word.limit) :
    rangeFits e index count len = true ↔ index * e.block + count ≤ len := by
  rw [rangeFits]
  rcases hstart : Word.mul? index e.block with _ | start
  · have hpast := Word.mul?_eq_none_iff.mp hstart
    exact iff_of_false nofun (by omega)
  · obtain ⟨-, rfl⟩ := Word.mul?_eq_some_iff.mp hstart
    rw [Option.bind_some, Word.add?]
    split
    next => exact decide_eq_true_iff
    next hpast => exact iff_of_false nofun (by omega)

/-- The range that a refused copy reports. Past the end of the destination it is the requested one
    in scalars, its start cut off at the greatest word. -/
inductive CopyOutside (a : BlockArray t e) (index : Nat) (source : BlockArray t f) (count : Nat) :
    String → Nat → Nat → Nat → Prop
  | destination {len : Nat} (hlen : a.numel? = some len)
      (hpast : len < index * e.block + count) :
      CopyOutside a index source count "copy destination" (Word.saturatingMul index e.block)
        count len
  | source {len sourceLen : Nat} (hlen : a.numel? = some len)
      (hfits : index * e.block + count ≤ len) (hsourceLen : source.numel? = some sourceLen)
      (hpast : sourceLen < count) :
      CopyOutside a index source count "copy source" 0 count sourceLen

/-- The range lies past the end, unless nothing is copied and both are at the greatest word. -/
theorem CopyOutside.past (h : a.CopyOutside index source count operation start asked len) :
    len < start + asked ∨ asked = 0 ∧ start = Word.greatest ∧ len = Word.greatest := by
  cases h with
  | destination hlen hpast =>
    obtain ⟨hlt, rfl⟩ := Word.mul?_eq_some_iff.mp hlen
    rw [Word.saturatingMul, Word.greatest]
    omega
  | source _ _ _ hpast => exact .inl (by omega)

/-- What a copy does after its checks fails for other reasons. -/
theorem failsWith_copyFrom_checked {start bytes : Nat} :
    (do
      let taken ← ((← source.memory).view 0 bytes).mapError .device
      let rest : Action ArrayError Unit := do
        let b ← a.memory
        let offset ← Action.checked (Word.mul? start t.bytes)
        let given ← (b.view offset bytes).mapError .device
        ((given.copyFrom taken).mapError .device).thenDrop given.allocation
      rest.thenDrop taken.allocation : Action ArrayError Unit).FailsWith ArrayError.NoRange := by
  refine .bind (failsWith_memory source) fun b => .bind (failsWith_device _) fun taken => ?_
  refine .thenDrop ?_ taken.allocation
  refine .bind (failsWith_memory a) fun b => .bind (.checked _) fun offset => ?_
  exact .bind (failsWith_device _) fun given => .thenDrop (failsWith_device _) given.allocation

/-- A copy reports a range exactly if one of the ranges lies outside its array. -/
theorem exec_copyFrom_outside_iff :
    exec (a.copyFrom index source count) s =
        (.error (.error (.outOfRange operation start asked len)), s') ↔
      s' = s ∧ a.CopyOutside index source count operation start asked len := by
  constructor
  · intro h
    obtain ⟨m, hm, h⟩ := of_exec_checked_bind_error h
    rcases of_exec_ensure_bind_error h with ⟨hpast, hcause, rfl⟩ | ⟨hfits, h⟩
    · rw [rangeFits_iff (lt_of_numel? hm), Nat.not_le] at hpast
      cases hcause
      exact ⟨rfl, .destination hm hpast⟩
    obtain ⟨k, hk, h⟩ := of_exec_checked_bind_error h
    rcases of_exec_ensure_bind_error h with ⟨hpast, hcause, rfl⟩ | ⟨-, h⟩
    · cases hcause
      exact ⟨rfl, .source hm ((rangeFits_iff (lt_of_numel? hm)).mp hfits) hk (Nat.not_le.mp hpast)⟩
    split at h
    next => cases h
    next =>
      obtain ⟨bytes, -, h⟩ := of_exec_checked_bind_error h
      exact absurd rfl (failsWith_copyFrom_checked h _ _ _ _)
  · rintro ⟨rfl, h⟩
    cases h with
    | @destination len hlen hpast =>
      have hoverflow : ¬rangeFits e index count len = true := by
        rw [rangeFits_iff (lt_of_numel? hlen)]
        exact Nat.not_le.mpr hpast
      rw [copyFrom, numel, exec_checked_bind hlen, exec_ensure_bind_of_not hoverflow]
    | source hlen hfits hsourceLen hpast =>
      have hinside := (rangeFits_iff (lt_of_numel? hlen)).mpr hfits
      rw [copyFrom, numel, exec_checked_bind hlen, exec_ensure_bind hinside, numel,
        exec_checked_bind hsourceLen, exec_ensure_bind_of_not (Nat.not_le.mpr hpast)]

/-! ## Gathers -/

/-- The range that a refused gather reports: the requested one, in elements. -/
inductive GatherOutside (a : BlockArray t e) (index : Nat) (indices : BlockArray .int32 .scalar)
    (values : BlockArray t e) (n : Nat) : String → Nat → Nat → Nat → Prop
  | destination (hitems : n ≠ 0) (hindices : indices.isAcquired) (hvalues : values.isAcquired)
      (hacquired : a.isAcquired) (helement : e.block * t.bytes < Word.limit)
      (hoffset : Word.limit ≤ index * (e.block * t.bytes)) :
      GatherOutside a index indices values n "gather destination" index n a.len

/-- In an array whose size fits in a word the first element lies past the end, and the report is
    also one of scalars exactly if elements are single scalars. -/
theorem GatherOutside.past (h : a.GatherOutside index indices values n operation start asked len)
    (hsize : a.byteSize?.isSome) :
    len < start ∧
      (a.numel? = some len ∧ start = index * e.block ∧ asked = n * e.block ↔ e.block = 1) := by
  obtain ⟨-, -, -, -, -, hoffset⟩ := h
  obtain ⟨size, hsize⟩ := Option.isSome_iff_exists.mp hsize
  obtain ⟨count, hcount, hsize⟩ := Option.bind_eq_some_iff.mp hsize
  obtain ⟨-, rfl⟩ := Word.mul?_eq_some_iff.mp hcount
  have hlt := (Word.mul?_eq_some_iff.mp hsize).1
  rw [Nat.mul_assoc] at hlt
  have hpast : a.len < index := Nat.lt_of_mul_lt_mul_right (Nat.lt_of_lt_of_le hlt hoffset)
  refine ⟨hpast, ?_, ?_⟩
  · rintro ⟨-, hstart, -⟩
    exact Nat.eq_of_mul_eq_mul_left (Nat.zero_lt_of_lt hpast) (by rw [← hstart, Nat.mul_one])
  · intro hsingle
    rw [numel?, hsingle, Nat.mul_one] at hcount
    simpa [numel?, hsingle] using hcount

/-- A gather reports a range exactly if its offset in bytes does not fit in a word. -/
theorem exec_gather_outside_iff :
    exec (a.gather index indices values n) s =
        (.error (.error (.outOfRange operation start asked len)), s') ↔
      s' = s ∧ a.GatherOutside index indices values n operation start asked len := by
  constructor
  · intro h
    rw [gather] at h
    split at h
    next => cases h
    next hitems =>
      obtain ⟨hindices, positions, h⟩ := of_exec_memory_bind_outOfRange h
      obtain ⟨hvalues, added, h⟩ := of_exec_memory_bind_outOfRange h
      obtain ⟨hacquired, b, h⟩ := of_exec_memory_bind_outOfRange h
      obtain ⟨bytes, hbytes, h⟩ := of_exec_checked_bind_error h
      obtain ⟨helement, rfl⟩ := Word.mul?_eq_some_iff.mp hbytes
      split at h
      next hoffset =>
        cases h
        exact ⟨rfl, .destination hitems hindices hvalues hacquired helement
          (Word.mul?_eq_none_iff.mp hoffset)⟩
      next =>
        -- behind an offset that fits, the view and the launch refuse for reasons of the device
        refine absurd rfl (FailsWith.bind (failsWith_device _) (fun tail => ?_) h _ _ _ _)
        exact .thenDrop (failsWith_device _) tail.allocation
  · rintro ⟨rfl, hitems, hindices, hvalues, hacquired, helement, hoffset⟩
    obtain ⟨positions, hpositions⟩ := Option.isSome_iff_exists.mp hindices
    obtain ⟨added, hadded⟩ := Option.isSome_iff_exists.mp hvalues
    obtain ⟨b, hb⟩ := Option.isSome_iff_exists.mp hacquired
    rw [gather, if_neg hitems, exec_memory_bind hpositions, exec_memory_bind hadded,
      exec_memory_bind hb, exec_checked_bind (Word.mul?_eq_some_iff.mpr ⟨helement, rfl⟩),
      Word.mul?_eq_none_iff.mpr hoffset]
    rfl

/-! ## Range errors -/

/-- A copy reports a range exactly if it lies outside its array, in scalars, and past the end
    unless it is empty and at the greatest word. A gather reports one exactly if its offset in
    bytes does not fit in a word, in elements, and past the last one of an array whose size fits
    in one. Neither changes anything. A process ends at such an error without a report exactly if
    the end of the range is no word. -/
theorem range_errors_exact (a values : BlockArray t e) (source : BlockArray t f)
    (indices : BlockArray .int32 .scalar) (index count n : Nat) (operation : String)
    (start asked len : Nat) (s s' : Store) :
    ((exec (a.copyFrom index source count) s =
          (.error (.error (.outOfRange operation start asked len)), s') ↔
        s' = s ∧ a.CopyOutside index source count operation start asked len) ∧
      (a.CopyOutside index source count operation start asked len →
        len < start + asked ∨ asked = 0 ∧ start = Word.greatest ∧ len = Word.greatest)) ∧
    ((exec (a.gather index indices values n) s =
          (.error (.error (.outOfRange operation start asked len)), s') ↔
        s' = s ∧ a.GatherOutside index indices values n operation start asked len) ∧
      (a.GatherOutside index indices values n operation start asked len →
        a.byteSize?.isSome →
          len < start ∧
            (a.numel? = some len ∧ start = index * e.block ∧ asked = n * e.block ↔
              e.block = 1))) ∧
    (Termination.ofArray (.outOfRange operation start asked len) = ⟨101, none⟩ ↔
      Word.limit ≤ start + asked) :=
  ⟨⟨exec_copyFrom_outside_iff, CopyOutside.past⟩, ⟨exec_gather_outside_iff, GatherOutside.past⟩,
    Termination.ofArray_outOfRange_iff⟩

/-- Three pairs of integers. -/
def threePairs : BlockArray .int32 ⟨2, 1, 1, Nat.two_pos⟩ :=
  ⟨3, some ⟨0, 0, 24, .int32, [3, 2, 1, 1]⟩, .owned, none, Grid.default⟩

/-- One more pair. -/
def onePair : BlockArray .int32 ⟨2, 1, 1, Nat.two_pos⟩ :=
  ⟨1, some ⟨1, 0, 8, .int32, [1, 2, 1, 1]⟩, .owned, none, Grid.default⟩

/-- One index. -/
def oneIndex : BlockArray .int32 .scalar :=
  ⟨1, some ⟨2, 0, 4, .int32, [1, 1, 1, 1]⟩, .owned, none, Grid.default⟩

/-- As many triples as have their number of scalars in a word, with no memory yet. -/
def wideTriples : BlockArray .int32 ⟨3, 1, 1, by decide⟩ :=
  ⟨6148914691236517205, none, .shared ⟨1, Nat.one_ne_zero⟩, some 0, Grid.default⟩

/-- The memory of these pairs and of the index on a device. -/
def pairsOnDevice : Store :=
  (exec (do
    let _ ← new ⟨2, 1, 1, Nat.two_pos⟩ .int32 0 3
    let _ ← new ⟨2, 1, 1, Nat.two_pos⟩ .int32 0 1
    new .scalar .int32 0 1) (Store.empty.addStack (.ofDevice 0)).2).2

/-- A gather reports three elements of an array of six scalars. A copy past it has no wording, and
    an empty copy into the triples reports a range that is not past their end. -/
theorem range_errors_untruthful :
    (exec (threePairs.gather (2 ^ 62) oneIndex onePair 1) pairsOnDevice =
        (.error (.error (.outOfRange "gather destination" (2 ^ 62) 1 3)), pairsOnDevice) ∧
      threePairs.numel? = some 6) ∧
    (exec (threePairs.copyFrom (2 ^ 63) onePair 1) pairsOnDevice =
        (.error (.error (.outOfRange "copy destination" (2 ^ 64 - 1) 1 6)), pairsOnDevice) ∧
      ArrayError.message? (.outOfRange "copy destination" (2 ^ 64 - 1) 1 6) = none) ∧
    exec (wideTriples.copyFrom (2 ^ 63) onePair 0) pairsOnDevice =
      (.error (.error (.outOfRange "copy destination" (2 ^ 64 - 1) 0 (2 ^ 64 - 1))),
        pairsOnDevice) :=
  ⟨⟨rfl, rfl⟩, ⟨rfl, rfl⟩, rfl⟩

end BlockArray

end DeviceMemory
