-- SUMMARY: What the host wrote to an array it reads again, bit for bit, whatever was done to other memory since.
import DeviceMemory.Proofs.Session.Handles
import DeviceMemory.Proofs.Session.Representation

/-!
# Isolation of arrays

The bytes of an allocation with a handle are its own: blocks that allocators park,
hand out again or give up are those of allocations without any. So a command changes
them only if it writes through a handle to that allocation and ends well
(`Reachable.bytes_after`). An array stays the handle that it is, and its scalars are
what its bytes decode to, so the host reads what it wrote (`transfer_round_trip`).
-/

namespace DeviceMemory.Session

open DeviceMemory.Action

variable {s s' : Session} {c : Command} {since : List Command} {answer : Answer} {name : String}
  {A : AllocationId} {t : ScalarType} {values : List (Scalar t)}

/-! ## Bytes -/

/-- Bytes stay as long as their allocation has a handle and is not overwritten. -/
theorem Reachable.bytes_after (hs : s.Reachable) (hclean : s.isClean since = true) {block : Block}
    (hblock : s.store.block? A = some block) (hpos : 0 < (s.after since).store.handles A)
    (hunwritten : s.Unwritten since A) :
    (s.after since).store.bytes A = s.store.bytes A := by
  obtain ⟨block', hblock', -, hsame⟩ := (hs.grown_after hclean).memory hblock hpos
  rw [Store.bytes_of_block? hblock', Store.bytes_of_block? hblock,
    hsame (not_not_intro hunwritten)]

/-! ## Scalars in memory -/

/-- The array with a name has its memory in this allocation, and the scalars are there. -/
def Stored (s : Session) (name : String) (A : AllocationId) (values : List (Scalar t)) : Prop :=
  ∃ (e : ElementShape) (a : BlockArray t e) (b : Buffer),
    s.arrays.lookup name = some ⟨t, e, a⟩ ∧ a.buffer = some b ∧ b.allocation = A ∧
      s.store.bytes A = Scalar.encodeAll values

/-- The host reads the scalars from the array with a name, bit for bit, and the command that
    reads them shows them. -/
def Reads (s : Session) (name : String) (values : List (Scalar t)) : Prop :=
  (∃ (e : ElementShape) (a : BlockArray t e), s.arrays.lookup name = some ⟨t, e, a⟩ ∧
    exec a.toHost s.store = (.ok values, s.store)) ∧
  (s.step (.array (.toHost name))).1.outcome = .ok (.scalars (values.map Scalar.literal))

/-- The command moves scalars from the host to an array, new or acquired. -/
inductive Command.Transfers (s : Session) (name : String) (values : List (Scalar t)) :
    Command → Prop where
  | fromHost (e : ElementShape) (alloc : String) {literals : List Literal}
      (hvalues : literals.mapM (Scalar.ofLiteral? t) = some values) :
      Transfers s name values (.array (.fromHost name t e alloc literals))
  | ofHost {e : ElementShape} {a : BlockArray t e} {literals : List Literal}
      (ha : s.arrays.lookup name = some ⟨t, e, a⟩)
      (hvalues : literals.mapM (Scalar.ofLiteral? t) = some values) :
      Transfers s name values (.array (.ofHost name literals))

/-- An array that gets a name keeps what it holds. -/
theorem Sound.stored_of_named (hs' : s'.Sound) {e : ElementShape} {a : BlockArray t e} {b : Buffer}
    {block : Block} {store : Store} (hb : a.buffer = some b)
    (hblock : store.block? b.allocation = some block)
    (hbytes : block.bytes = Scalar.encodeAll values)
    (hname : StateT.run (ExceptT.run (nameArray name ⟨t, e, a⟩ >>= fun _ => pure Answer.nothing))
      { s with store := store } = (.ok answer, s')) : s'.Stored name b.allocation values := by
  obtain ⟨-, hnext⟩ := Prod.mk.inj hname
  have ha : s'.arrays.lookup name = some ⟨t, e, a⟩ := by
    rw [← hnext]
    exact Names.lookup_put ..
  -- the array that had the name may go with its memory, which is not this one
  have hdropped : store.Onward ∅ ∅ s'.store := by
    rw [← hnext]
    exact onward_dropArray ..
  obtain ⟨block', hblock', -, hsame⟩ :=
    hdropped.memory hblock (hs'.handles_pos_of_lookup ha b hb)
  refine ⟨e, a, b, ha, hb, rfl, ?_⟩
  rw [Store.bytes_of_block? hblock', hsame (Set.notMem_empty _), hbytes]

theorem Reachable.stored_of_transfers (hs : s.Reachable) (h : c.Transfers s name values)
    (hok : (s.step c).1.outcome = .ok answer) : ∃ A, (s.step c).2.Stored name A values := by
  obtain ⟨hrun, -⟩ := run_of_step hok
  cases h with
  | fromHost e alloc hvalues =>
    have hs' : (s.step (.array (.fromHost name t e alloc _))).2.Sound :=
      hs.sound.step rfl (by rw [Reply.isTrap, hok])
    obtain ⟨a, -, hrest⟩ := Turn.of_run_find_bind hrun
    obtain ⟨values', hvalues', hrest⟩ := Turn.of_run_required_bind hrest
    cases hvalues.symm.trans hvalues'
    obtain ⟨made, store, hexec, hname⟩ := Turn.of_run_act_bind hrest
    obtain ⟨b, block, hb, hblock, hbytes⟩ :=
      BlockArray.block?_fromHost hs.sound.quiet.balanced hexec
    exact ⟨_, hs'.stored_of_named hb hblock hbytes hname⟩
  | ofHost ha hvalues =>
    generalize (s.step (.array (.ofHost name _))).2 = s' at *
    obtain ⟨_, ha', hrest⟩ := Turn.of_run_find_bind hrun
    cases ha.symm.trans ha'
    obtain ⟨values', hvalues', hrest⟩ := Turn.of_run_required_bind hrest
    cases hvalues.symm.trans hvalues'
    obtain ⟨_, store, hexec, hrest⟩ := Turn.of_run_act_bind hrest
    cases hrest
    obtain ⟨b, hb⟩ := BlockArray.exists_buffer_of_exec_ofHost hexec
    obtain ⟨block, hblock, hspans, -⟩ := hs.spans ha hb
    exact ⟨_, _, _, b, ha, hb, rfl, hspans.bytes_ofHost (s := s.quiet.store) hblock hexec⟩

/-- Scalars stay where they are stored as long as nothing else is written there. -/
theorem Stored.after (h : s.Stored name A values) (hs : s.Reachable)
    (hclean : s.isClean since = true) (huntaken : s.Untaken since name)
    (hunwritten : s.Unwritten since A) : (s.after since).Stored name A values := by
  obtain ⟨e, a, b, ha, hb, rfl, hbytes⟩ := h
  obtain ⟨block, hblock, -⟩ := hs.spans ha hb
  have hacquired : a.isAcquired = true := by rw [BlockArray.isAcquired, hb]; rfl
  obtain ⟨g, ha'⟩ := hs.keeps_array hclean huntaken ha hacquired
  have hpos := (hs.after hclean).sound.handles_pos_of_lookup ha' b hb
  exact ⟨e, a.withGrid g, b, ha', hb, rfl,
    (hs.bytes_after hclean hblock hpos hunwritten).trans hbytes⟩

theorem Stored.reads (h : s.Stored name A values) (hs : s.Reachable) : s.Reads name values := by
  obtain ⟨e, a, b, ha, hb, rfl, hbytes⟩ := h
  obtain ⟨block, hblock, hspans, -⟩ := hs.spans ha hb
  have hread : exec a.toHost s.quiet.store = (.ok values, s.quiet.store) :=
    hspans.exec_toHost_of_encodeAll (s := s.quiet.store) hblock hbytes
  have hrun : StateT.run (ExceptT.run (Command.array (.toHost name)).run) s.quiet =
      (.ok (.scalars (values.map Scalar.literal)), s.quiet) := by
    refine (Turn.run_bind_of_ok (Turn.run_find (s := s.quiet) ha)).trans ?_
    exact Turn.run_bind_of_ok (Turn.run_act_eq_ok_iff.mpr ⟨_, hread, rfl⟩)
  refine ⟨⟨e, a, ha, hspans.exec_toHost_of_encodeAll hblock hbytes⟩, ?_⟩
  rw [step_of_run hrun]
  rfl

/-- Every list of scalars can be moved to an array. After any commands that leave the array its
    name and write through no handle to its allocation, the host reads exactly these again. -/
theorem transfer_round_trip :
    (∀ (t : ScalarType) (values : List (Scalar t)),
      ∃ literals : List Literal, literals.mapM (Scalar.ofLiteral? t) = some values) ∧
    ∀ (s : Session) (c : Command) (name : String) (t : ScalarType) (values : List (Scalar t))
      (answer : Answer), s.Reachable → c.Transfers s name values →
      (s.step c).1.outcome = .ok answer →
      ∃ A, (s.step c).2.Stored name A values ∧
        ∀ since, (s.step c).2.isClean since = true → (s.step c).2.Untaken since name →
          (s.step c).2.Unwritten since A → ((s.step c).2.after since).Reads name values := by
  refine ⟨fun t values => Scalar.exists_literals values, ?_⟩
  intro s c name t values answer hs h hok
  have hs' : (s.step c).2.Reachable :=
    hs.step c (by cases h <;> rfl) (by rw [Reply.isTrap, hok])
  obtain ⟨A, hstored⟩ := hs.stored_of_transfers h hok
  refine ⟨A, hstored, fun since hclean huntaken hunwritten => ?_⟩
  exact (hstored.after hs' hclean huntaken hunwritten).reads (hs'.after hclean)

/-- Commands that park a block. -/
def parkedRun : List Command :=
  [.allocator (.make "device" .host [.recycling 2, .metered]),
    .buffer (.allocate "old" "device" .float32 [2] false),
    .buffer (.drop "old")]

/-- A pattern that is no number, with a payload, and the negative zero. -/
def oddPatterns : List (Scalar .float32) := [0x7fc00001#32, 0x80000000#32]

/-- The command that makes an array of them. -/
def keepPatterns : Command :=
  .array (.fromHost "kept" .float32 ⟨2, 1, 1, Nat.two_pos⟩ "device"
    [.pattern 4 0x7fc00001, .pattern 4 0x80000000])

/-- Commands that read an array, fail to write it, and write, park and give up other memory. -/
def driftRun : List Command :=
  [.array (.fromHost "other" .float32 .scalar "device" [.pattern 4 1, .pattern 4 2]),
    .array (.copy "other" "kept" 0 1),
    .array (.ofHost "kept" []),
    .array (.drop "other"),
    .allocator (.trim "device")]

theorem transfer_round_trip_driftRun :
    ((empty.after parkedRun).step keepPatterns).1.outcome = .ok .nothing ∧
      (((empty.after parkedRun).step keepPatterns).2.after driftRun).Reads "kept" oddPatterns := by
  obtain ⟨A, ⟨e, a, b, ha, hb, rfl, -⟩, hreads⟩ :=
    transfer_round_trip.2 (empty.after parkedRun) keepPatterns "kept" .float32 oddPatterns .nothing
      (Reachable.empty.after rfl) (.fromHost ⟨2, 1, 1, Nat.two_pos⟩ "device" rfl) rfl
  cases ha
  cases hb
  refine ⟨rfl, hreads driftRun rfl (untaken_of_array? (by decide)) ?_⟩
  have hnone {s : Session} {c : Command} (hwrites : 1 ∉ c.writes s) : 1 ∉ c.overwrites s :=
    fun hmem => hwrites (c.overwrites_subset s hmem)
  simp only [driftRun, unwritten_cons]
  refine ⟨hnone (Set.notMem_empty _), hnone ?_, ?_, hnone (Set.notMem_empty _),
    hnone (Set.notMem_empty _), unwritten_nil⟩
  · -- the copy writes to the other array
    rintro ⟨other, hother, b, hb, hid⟩
    cases hother
    cases hb
    cases hid
  · -- the list has no scalars, so nothing is written
    exact Set.notMem_empty _

end DeviceMemory.Session
