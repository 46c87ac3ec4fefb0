-- SUMMARY: Arrays of a session: which have memory, that they keep it, and that it is always the whole of what their shape needs.
import DeviceMemory.Proofs.Session.Fates

/-!
# The representation of arrays

Whether a named array has memory is decided by how it was made and by its past: an
owned one always has, and a shared one has if and only if a command acquired it
since it got its name (`AcquiredSince`). It keeps its buffer as long as it has the
name, whatever happens to the slot that the buffer came from. The buffer is a whole
allocation, of exactly the bytes that the array's own shape and type need, so the
host can zero, read and write it at any time (`arrays_represented`).
-/

namespace DeviceMemory

open DeviceMemory.Action

/-! ## Sizes -/

namespace BlockArray.Spans

variable {t : ScalarType} {e : ElementShape} {a : BlockArray t e} {A : AllocationId}
  {block : Block} {s : Store}

/-- The array counts as many bytes as there are, though it multiplies in another order. -/
theorem byteSize?_eq (ha : a.Spans A block) : a.byteSize? = some block.size := by
  obtain ⟨count, hcount, hsize⟩ := numel?_eq_some ha.byteSize
  obtain ⟨_, -, hbytes⟩ := Option.bind_eq_some_iff.mp ha.byteSize
  obtain ⟨hlt, hproduct⟩ := Word.mul?_eq_some_iff.mp hbytes
  rw [BlockArray.byteSize?, hcount, Option.bind_some, Word.mul?_eq_some_iff, Nat.mul_comm, hsize]
  exact ⟨hproduct ▸ hlt, rfl⟩

theorem size_eq (ha : a.Spans A block) :
    block.size = a.len * e.s1 * e.s2 * e.s3 * t.bytes := by
  obtain ⟨count, hcount, hbytes⟩ := Option.bind_eq_some_iff.mp ha.byteSize
  have hproduct : a.shape.prod = count := Word.prod_eq_of_product? hcount
  rw [(Word.mul?_eq_some_iff.mp hbytes).2, ← hproduct, Nat.mul_comm]
  simp [shape, bufferShape, Nat.mul_assoc]

end BlockArray.Spans

namespace Session

variable {s : Session} {c : Command} {commands : List Command} {name : String} {a : AnyArray}

/-! ## Names that are not taken -/

/-- No command of the list gives the name to another array or takes it away. -/
def Untaken (s : Session) (commands : List Command) (name : String) : Prop :=
  ∀ before c since, commands = before ++ c :: since → ¬c.Takes (s.after before) name

theorem untaken_nil : s.Untaken [] name := forall_split_nil

theorem untaken_cons :
    s.Untaken (c :: commands) name ↔
      ¬c.Takes s name ∧ (s.step c).2.Untaken commands name :=
  forall_split_cons

theorem untaken_concat :
    s.Untaken (commands ++ [c]) name ↔
      s.Untaken commands name ∧ ¬c.Takes (s.after commands) name := by
  induction commands generalizing s with
  | nil => simp [untaken_cons, untaken_nil, after]
  | cons d commands ih => rw [List.cons_append, untaken_cons, ih, untaken_cons, and_assoc]; rfl

theorem untaken_of_array? (hnone : ∀ c ∈ commands, c.array? ≠ some name) :
    s.Untaken commands name := by
  rintro before c since rfl htakes
  exact hnone c (by simp) htakes.2

/-- An array that has memory keeps its buffer as long as it has its name. -/
theorem Reachable.keeps_array {since : List Command} (hs : s.Reachable)
    (hclean : s.isClean since = true) (huntaken : s.Untaken since name)
    (ha : s.arrays.lookup name = some a) (hacquired : a.array.isAcquired = true) :
    ∃ g, (s.after since).arrays.lookup name = some (a.withGrid g) := by
  induction since generalizing s a with
  | nil => exact ⟨a.array.grid, ha⟩
  | cons c since ih =>
    obtain ⟨hc, htrap, hclean⟩ := isClean_cons.mp hclean
    obtain ⟨hnot, huntaken⟩ := untaken_cons.mp huntaken
    obtain ⟨g, hg⟩ : ∃ g, (s.step c).2.arrays.lookup name = some (a.withGrid g) := by
      cases hs.fate hc htrap name with
      | taken htakes => exact absurd htakes hnot
      | acquired _ hold hresult hnew =>
        cases hold.symm.trans ha
        cases hresult.eq_of_isAcquired hacquired
        exact ⟨a.array.grid, hnew⟩
      | kept _ _ hsame =>
        rw [ha] at hsame
        exact hsame.eq_some_right
    obtain ⟨g', hg'⟩ := ih (hs.step c hc htrap) hclean huntaken hg hacquired
    exact ⟨g', hg'⟩

/-! ## Acquired arrays -/

/-- A command of the run acquired the array that has the name, which no one took since. -/
def AcquiredSince (commands : List Command) (name : String) : Prop :=
  ∃ before c since, commands = before ++ c :: since ∧ c.Acquires (empty.after before) name ∧
    (empty.after (before ++ [c])).Untaken since name

theorem acquiredSince_concat :
    AcquiredSince (commands ++ [c]) name ↔
      c.Acquires (empty.after commands) name ∨
        AcquiredSince commands name ∧ ¬c.Takes (empty.after commands) name := by
  constructor
  · rintro ⟨before, d, since, hrun, hacquires, huntaken⟩
    rcases concat_eq_append_cons.mp hrun with ⟨rfl, rfl, -⟩ | ⟨since, rfl, rfl⟩
    · exact .inl hacquires
    · obtain ⟨huntaken, hlast⟩ := untaken_concat.mp huntaken
      rw [← after_append, List.append_assoc, List.singleton_append] at hlast
      exact .inr ⟨⟨before, d, since, rfl, hacquires, huntaken⟩, hlast⟩
  · rintro (hacquires | ⟨⟨before, d, since, rfl, hacquires, huntaken⟩, hlast⟩)
    · exact ⟨commands, c, [], rfl, hacquires, untaken_nil⟩
    · refine ⟨before, d, since ++ [c], by simp, hacquires, untaken_concat.mpr ⟨huntaken, ?_⟩⟩
      rwa [← after_append, List.append_assoc, List.singleton_append]

/-- A shared array has memory if and only if it was acquired since it got its name. -/
theorem isAcquired_iff {key : PoolKey} (hclean : empty.isClean commands = true)
    (ha : (empty.after commands).arrays.lookup name = some a)
    (hshared : a.array.ownership = .shared key) :
    a.array.isAcquired = true ↔ AcquiredSince commands name := by
  induction commands using List.reverseRecOn generalizing a with
  | nil => cases ha
  | append_singleton commands c ih =>
    obtain ⟨hclean, hc, htrap⟩ := isClean_concat.mp hclean
    rw [after_concat] at ha
    rw [acquiredSince_concat]
    cases (Reachable.empty.after hclean).fate hc htrap name with
    | taken htakes hnew =>
      have hnone : a.array.isAcquired = false := by
        rw [BlockArray.isAcquired, (hnew a ha).1 key hshared]
        rfl
      refine iff_of_false (by simp [hnone]) ?_
      rintro (⟨-, rfl⟩ | ⟨-, hnot⟩)
      · cases htakes.2
      · exact hnot htakes
    | acquired hacquires _ hresult hnew =>
      cases hnew.symm.trans ha
      exact iff_of_true hresult.holds_buffer.1 (.inl hacquires)
    | kept hnot hnot' hsame =>
      rw [ha] at hsame
      obtain ⟨old, g, hold, rfl⟩ := hsame.eq_some_left
      have hiff : old.array.isAcquired = true ↔ AcquiredSince commands name :=
        ih hclean hold hshared
      simp only [hnot, hnot', not_false_eq_true, and_true, false_or, ← hiff]
      exact Iff.rfl

/-! ## Representation -/

/-- How a named array stands for its scalars after a run of commands. -/
structure Represented (commands : List Command) (name : String) (a : AnyArray) (s : Session) :
    Prop where
  owned : a.array.ownership = .owned → a.array.isAcquired = true
  shared : ∀ {key}, a.array.ownership = .shared key →
    (a.array.isAcquired = true ↔ AcquiredSince commands name)
  /-- What has memory keeps it until its name is taken. -/
  lasting : a.array.isAcquired = true → ∀ {since}, s.isClean since = true →
    s.Untaken since name → ∃ g, (s.after since).arrays.lookup name = some (a.withGrid g)
  allocated : ∀ {b}, a.array.buffer = some b → b.isAllocated s.store = true
  /-- The buffer is a whole allocation in the array's own type and shape. -/
  layout : ∀ {b}, a.array.buffer = some b → b.offset = 0 ∧ b.dtype = a.t ∧
    b.shape = [a.array.len, a.e.s1, a.e.s2, a.e.s3] ∧ b.size = s.store.sizeOf b.allocation
  /-- Its size is what the array says of itself. -/
  size : ∀ {b}, a.array.buffer = some b → a.array.byteSize? = some b.size ∧
    b.size = a.array.len * a.e.s1 * a.e.s2 * a.e.s3 * a.t.bytes
  /-- With memory, no transfer with the host fails. -/
  zero : a.array.isAcquired = true → ∃ s', exec a.array.zero s.store = (.ok (), s')
  toHost : a.array.isAcquired = true →
    ∃ values, exec a.array.toHost s.store = (.ok values, s.store) ∧
      a.array.numel? = some values.length
  ofHost : a.array.isAcquired = true → ∀ values, a.array.numel? = some values.length →
    ∃ s', exec (a.array.ofHost values) s.store = (.ok (), s')

/-- The memory of a named array. -/
theorem Reachable.spans (hs : s.Reachable) (ha : s.arrays.lookup name = some a) {b : Buffer}
    (hb : a.array.buffer = some b) :
    ∃ block, s.store.block? b.allocation = some block ∧ a.array.Spans b.allocation block ∧
      b = .whole b.allocation block.size a.t a.array.shape := by
  obtain ⟨block, hblock, hspans⟩ :=
    BlockArray.exists_spans hs.sound.balanced hb ((hs.fitted ha).covers b hb)
  exact ⟨block, hblock, hspans, Option.some.inj (hb.symm.trans hspans.buffer)⟩

/-- In every run of commands, named arrays have memory as their past says, and what they have is
    the whole of what their shape needs. -/
theorem arrays_represented (hclean : empty.isClean commands = true)
    (ha : (empty.after commands).arrays.lookup name = some a) :
    Represented commands name a (empty.after commands) := by
  have hs : (empty.after commands).Reachable := Reachable.empty.after hclean
  have hspans {b : Buffer} (hb : a.array.buffer = some b) := hs.spans ha hb
  refine ⟨(hs.fitted ha).owned, isAcquired_iff hclean ha,
    fun hacquired _ hlater huntaken => hs.keeps_array hlater huntaken ha hacquired,
    fun hb => ?_, fun hb => ?_, fun hb => ?_, fun hacquired => ?_, fun hacquired => ?_,
    fun hacquired values hvalues => ?_⟩
  · obtain ⟨block, hblock, -⟩ := hspans hb
    exact Option.isSome_iff_exists.mpr ⟨block, hblock⟩
  · obtain ⟨block, hblock, -, hwhole⟩ := hspans hb
    rw [hs.sound.balanced.sizeOf_eq hblock, hwhole]
    exact ⟨rfl, rfl, rfl, rfl⟩
  · obtain ⟨block, hblock, harray, hwhole⟩ := hspans hb
    rw [hwhole]
    exact ⟨harray.byteSize?_eq, harray.size_eq⟩
  all_goals
    obtain ⟨b, hb⟩ := Option.isSome_iff_exists.mp hacquired
    obtain ⟨block, hblock, harray, -⟩ := hspans hb
  · obtain ⟨allocation, hallocation, hmemory⟩ := Buffer.exists_of_block? hblock
    exact ⟨_, harray.exec_zero hallocation hmemory⟩
  · exact ⟨_, harray.exec_toHost hblock, harray.numel?_eq hblock⟩
  · exact ⟨_, (harray.exec_ofHost hblock hvalues).2⟩

/-- Commands that acquire a shared array whose pool is then emptied and goes. -/
def releasedRun : List Command :=
  [.allocator (.make "device" .host [.metered]),
    .pool (.make "shared" "device" true),
    .array (.shared "pair" .int32 ⟨2, 1, 1, Nat.two_pos⟩ "shared" ⟨1, Nat.one_ne_zero⟩ 3),
    .array (.acquire "pair"),
    .pool (.release "shared" ⟨1, Nat.one_ne_zero⟩),
    .pool (.clear "shared"),
    .pool (.drop "shared")]

theorem arrays_represented_releasedRun :
    ∃ a, (empty.after releasedRun).arrays.lookup "pair" = some a ∧
      a.array.buffer = some ⟨0, 0, 24, .int32, [3, 2, 1, 1]⟩ ∧
      AcquiredSince releasedRun "pair" ∧
      Represented releasedRun "pair" a (empty.after releasedRun) := by
  have h : Represented releasedRun "pair" _ (empty.after releasedRun) :=
    arrays_represented rfl rfl
  exact ⟨_, rfl, rfl, (h.shared rfl).mp rfl, h⟩

end Session

end DeviceMemory
