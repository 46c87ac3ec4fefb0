-- SUMMARY: Arrays that share a slot are one memory as long as no one forgets the key, and acquiring one says whether it is fresh.
import DeviceMemory.Proofs.Array.Contents
import DeviceMemory.Proofs.Session.History

/-!
# Coherence of shared arrays

In a run that never forgets a key, all acquired arrays of that key have the
allocation that the pool shows under it (`Resident`), so each reads what any other
wrote. An acquisition is fresh if and only if nothing is left of what the key ever
had: no allocation that was made for it has a handle, and a pool that retains made
none (`shared_arrays_coherent`).

The induction is on the run. What an acquired array has stays under the key,
because the array itself is a handle to it.
-/

namespace DeviceMemory.Session

variable {s : Session} {c : Command} {commands : List Command} {p : PoolId} {key : PoolKey}
  {A : AllocationId}

/-! ## Runs that do not forget a key -/

/-- No command of the run released the key or cleared its pool. -/
def Undisturbed (commands : List Command) (p : PoolId) (key : PoolKey) : Prop :=
  ∀ before c since, commands = before ++ c :: since → ¬c.Forgets (empty.after before) p key

/-- A run of commands that never forget anything forgets no key. -/
theorem undisturbed_of_forgets (hnone : ∀ c ∈ commands, ∀ s, c.forgets s = ∅) :
    Undisturbed commands p key := by
  rintro before c since rfl ⟨-, hforgets⟩
  rw [hnone c (by simp)] at hforgets
  exact hforgets

/-- Some command of the run acquired the key fresh and got the allocation. -/
def Made (commands : List Command) (p : PoolId) (key : PoolKey) (A : AllocationId) : Prop :=
  ∃ before c since, commands = before ++ c :: since ∧ c.Files (empty.after before) p key A

theorem Undisturbed.concat (h : Undisturbed (commands ++ [c]) p key) :
    Undisturbed commands p key ∧ ¬c.Forgets (empty.after commands) p key := by
  refine ⟨fun before d since hrun => h before d (since ++ [c]) ?_, h commands c [] rfl⟩
  rw [hrun, List.append_assoc, List.cons_append]

theorem made_concat :
    Made (commands ++ [c]) p key A ↔
      c.Files (empty.after commands) p key A ∨ Made commands p key A := by
  constructor
  · rintro ⟨before, d, since, hrun, hfiles⟩
    rcases concat_eq_append_cons.mp hrun with ⟨rfl, rfl, -⟩ | ⟨since, -, rfl⟩
    · exact .inl hfiles
    · exact .inr ⟨before, d, since, rfl, hfiles⟩
  · rintro (hfiles | ⟨before, d, since, rfl, hfiles⟩)
    · exact ⟨commands, c, [], rfl, hfiles⟩
    · exact ⟨before, d, since ++ [c], by simp, hfiles⟩

theorem Live.made (h : Live commands p key A) : Made commands p key A := by
  obtain ⟨before, c, since, hrun, hfiles, -⟩ := h
  exact ⟨before, c, since, hrun, hfiles⟩

/-- What was made has a pool and is an allocation. -/
theorem Made.known (hclean : empty.isClean commands = true) (hmade : Made commands p key A) :
    p < (empty.after commands).store.pools.length ∧
      A < (empty.after commands).store.allocations.length := by
  induction commands using List.reverseRecOn with
  | nil =>
    obtain ⟨before, c, since, hrun, -⟩ := hmade
    simp at hrun
  | append_singleton commands c ih =>
    obtain ⟨hclean, hc, htrap⟩ := isClean_concat.mp hclean
    have hmoved := ((Reachable.empty.after hclean).moves hc htrap).store
    rw [after_concat]
    rcases made_concat.mp hmade with hfiles | hmade
    · obtain ⟨hp, -, hA, -⟩ := hmoved.fresh hfiles
      exact ⟨Nat.lt_of_lt_of_le hp hmoved.length_pools_le, hA⟩
    · obtain ⟨hp, hA⟩ := ih hclean hmade
      exact ⟨Nat.lt_of_lt_of_le hp hmoved.length_pools_le, Nat.lt_of_lt_of_le hA hmoved.length_le⟩

/-- What was made for a key that no one forgets is live as long as it is kept. -/
theorem Made.live?_eq (hclean : empty.isClean commands = true)
    (hkey : Undisturbed commands p key) (hopen : (empty.after commands).store.Open p)
    (hmade : Made commands p key A)
    (hheld : Pool.retainsOf p (empty.after commands).store = true ∨
      0 < (empty.after commands).store.handles A) :
    Pool.live? p key (empty.after commands).store = some A := by
  induction commands using List.reverseRecOn with
  | nil =>
    obtain ⟨before, c, since, hrun, -⟩ := hmade
    simp at hrun
  | append_singleton commands c ih =>
    obtain ⟨hclean, hc, htrap⟩ := isClean_concat.mp hclean
    obtain ⟨hkey, hnot⟩ := hkey.concat
    have hs : (empty.after commands).Reachable := Reachable.empty.after hclean
    have hmoved := (hs.moves hc htrap).store
    rw [after_concat] at hopen hheld ⊢
    refine (hmoved.live?_eq_some_iff hs.sound.balanced (hs.step c hc htrap).sound.balanced
      hs.slotsFormed hopen).mpr ⟨hheld, ?_⟩
    rcases made_concat.mp hmade with hfiles | hmade
    · exact .inl hfiles
    · obtain ⟨hp, hA⟩ := hmade.known hclean
      refine .inr ⟨ih hclean hkey (hmoved.isOpen hopen) hmade ?_, hnot⟩
      exact hheld.imp (fun hretains => (hmoved.retainsOf_eq hp).symm.trans hretains)
        (hmoved.handles_pos hA)

theorem Live.keeps (h : Live commands p key A) : (empty.after commands).Keeps p A := by
  obtain ⟨before, c, since, rfl, -, hkept, -⟩ := h
  exact hkept since [] (List.append_nil _).symm

/-- A key that no one forgets is not live if and only if nothing is left of what it had. -/
theorem live?_eq_none_iff (hclean : empty.isClean commands = true)
    (hkey : Undisturbed commands p key) (hopen : (empty.after commands).store.Open p) :
    Pool.live? p key (empty.after commands).store = none ↔
      (∀ A, Made commands p key A → A ∉ (empty.after commands).inHands) ∧
        (Pool.retainsOf p (empty.after commands).store = true →
          ¬∃ A, Made commands p key A) := by
  have hs : (empty.after commands).Sound := (Reachable.empty.after hclean).sound
  constructor
  · intro hnone
    have hgone {A : AllocationId} (hmade : Made commands p key A) :
        ¬(Pool.retainsOf p (empty.after commands).store = true ∨
          0 < (empty.after commands).store.handles A) := by
      intro hheld
      rw [hmade.live?_eq hclean hkey hopen hheld] at hnone
      cases hnone
    refine ⟨fun A hmade hhands => hgone hmade (.inr ?_), fun hretains => ?_⟩
    · exact hs.balanced.handles_pos (mem_handles_of_inHands hhands)
    · rintro ⟨A, hmade⟩
      exact hgone hmade (.inl hretains)
  · rintro ⟨hhands, hretains⟩
    rw [Option.eq_none_iff_forall_ne_some]
    intro A hlive
    have hkept : Live commands p key A := (live?_iff_live hclean hopen).mp hlive
    rcases hkept.keeps with hpool | hmem
    · exact hretains hpool ⟨A, hkept.made⟩
    · exact hhands A hkept.made hmem

/-! ## Acquired arrays -/

/-- A named array that shares the slot of a key. -/
structure Sharing (s : Session) (p : PoolId) (key : PoolKey) (a : AnyArray) : Prop where
  named : ∃ name, (name, a) ∈ s.arrays
  ownership : a.array.ownership = .shared key
  pool : a.array.pool = some p

/-- A named array is a handle to the memory it has. -/
theorem Sound.handles_pos_of_array (hs : s.Sound) {name : String} {a : AnyArray}
    (ha : (name, a) ∈ s.arrays) {b : Buffer} (hbuffer : a.array.buffer = some b) :
    0 < s.store.handles b.allocation := by
  have hmem : b.allocation ∈ s.inHands :=
    List.mem_append.mpr (.inr (List.mem_filterMap.mpr ⟨_, ha, by rw [hbuffer]; rfl⟩))
  exact hs.balanced.handles_pos (mem_handles_of_inHands hmem)

theorem Sharing.mem_livePools {a : AnyArray} (ha : s.Sharing p key a) : p ∈ s.livePools := by
  obtain ⟨name, hmem⟩ := ha.named
  exact List.mem_append.mpr (.inr (List.mem_filterMap.mpr ⟨_, hmem, ha.pool⟩))

/-- Every acquired array of the key covers the allocation that the pool shows under it. -/
def Resident (s : Session) (p : PoolId) (key : PoolKey) : Prop :=
  ∀ {a : AnyArray} {b : Buffer}, s.Sharing p key a → a.array.buffer = some b →
    Pool.live? p key s.store = some b.allocation ∧ b.Covers a.t a.array.shape s.store

theorem Reachable.resident_step (hs : s.Reachable) (hc : c.isDirect = false)
    (htrap : (s.step c).1.isTrap = false) (hnot : ¬c.Forgets s p key) (hbefore : s.Resident p key) :
    (s.step c).2.Resident p key := by
  intro a b ha hbuffer
  have hs' : (s.step c).2.Reachable := hs.step c hc htrap
  have hmoves := hs.moves hc htrap
  obtain ⟨name, hmem⟩ := ha.named
  have hpos : 0 < (s.step c).2.store.handles b.allocation :=
    hs'.sound.handles_pos_of_array hmem hbuffer
  have hiff {A : AllocationId} : Pool.live? p key (s.step c).2.store = some A ↔ _ :=
    hmoves.store.live?_eq_some_iff hs.sound.balanced hs'.sound.balanced hs.slotsFormed
      (hs'.sound.isOpen ha.mem_livePools)
  have harisen : a.Arisen s.arrays _ (s.step c).2.store := hmoves.arrays _ hmem
  cases harisen with
  | kept hold g =>
    obtain ⟨hlive, hcovers⟩ := hbefore ⟨⟨_, hold⟩, ha.ownership, ha.pool⟩ hbuffer
    exact ⟨hiff.mpr ⟨.inr hpos, .inr ⟨hlive, hnot⟩⟩, hmoves.store.covers hcovers hpos⟩
  | made hnew =>
    rw [hnew key ha.ownership] at hbuffer
    cases hbuffer
  | acquired hold hshared hpool hslot hcovers =>
    cases hbuffer
    obtain rfl := Option.some.inj (hpool.symm.trans ha.pool)
    obtain ⟨⟩ := hshared.symm.trans ha.ownership
    refine ⟨hiff.mpr ⟨.inr hpos, ?_⟩, hcovers⟩
    exact hslot.symm.imp id fun hshown => ⟨hshown, hnot⟩

theorem resident (hclean : empty.isClean commands = true) (hkey : Undisturbed commands p key) :
    (empty.after commands).Resident p key := by
  induction commands using List.reverseRecOn with
  | nil =>
    intro a b ha
    obtain ⟨name, hmem⟩ := ha.named
    cases hmem
  | append_singleton commands c ih =>
    obtain ⟨hclean, hc, htrap⟩ := isClean_concat.mp hclean
    obtain ⟨hkey, hnot⟩ := hkey.concat
    rw [after_concat]
    exact (Reachable.empty.after hclean).resident_step hc htrap hnot (ih hclean hkey)

/-! ## One memory -/

/-- The operations that write to an array, with the operands that a session has for them. -/
inductive Writes (s : Session) {t : ScalarType} {e : ElementShape} (a : BlockArray t e) :
    Action ArrayError Unit → Prop where
  | zero : Writes s a a.zero
  | ofHost (values : List (Scalar t)) : Writes s a (a.ofHost values)
  | copyFrom {name : String} {f : ElementShape} {source : BlockArray t f} (index count : Nat)
      (hsource : (name, ⟨t, f, source⟩) ∈ s.arrays) : Writes s a (a.copyFrom index source count)
  | scatter (indices : BlockArray .int32 .scalar) (source : BlockArray t e) (n : Nat) :
      Writes s a (a.scatter indices source n)
  | gather (start : Nat) (indices : BlockArray .int32 .scalar) (source : BlockArray t e) (n : Nat) :
      Writes s a (a.gather start indices source n)

/-- A write changes what its array has, and leaves the sizes of all memory. -/
theorem Writes.since (hs : s.Sound) {t : ScalarType} {e : ElementShape} {a : BlockArray t e}
    {b : Buffer} (hbuffer : a.buffer = some b) (hpos : 0 < s.store.handles b.allocation)
    {write : Action ArrayError Unit} (hwrite : s.Writes a write) :
    Triple (s.store.Since ∅ 0) write (fun _ => s.store.Since (∅ ∪ a.target) 0)
      (s.store.Since ∅ 0) := by
  have hreached : a.Reached s.store 0 := by
    intro b' hb'
    cases hbuffer.symm.trans hb'
    exact .inr hpos
  cases hwrite with
  | zero => exact a.since_zero
  | ofHost values => exact a.since_ofHost values
  | copyFrom index count hsource =>
    exact a.since_copyFrom index _ count hreached fun b' hb' =>
      .inr (hs.handles_pos_of_array hsource hb')
  | scatter indices source n => exact a.since_scatter source indices n
  | gather start indices source n => exact a.since_gather source indices start n hreached

/-- An array that cannot be acquired fails the command, and all names stay. -/
theorem step_acquire_failed {name : String} {a : AnyArray} {cause : ArrayError}
    (ha : s.arrays.lookup name = some a) {store : Store}
    (hstore : store = { s.store with journal := [], trapped := false })
    (herr : Action.exec a.array.acquire store = (.error (.error cause), store)) :
    s.step (.array (.acquire name)) =
      (⟨.error (.error (.array cause)), []⟩, { s with store := store }) := by
  have hfind : StateT.run (ExceptT.run (Turn.find arrays name)) { s with store := store } =
      (.ok a, { s with store := store }) := Turn.run_find ha
  have hact : StateT.run (ExceptT.run (Turn.onArray a.array.acquire)) { s with store := store } =
      (.error (.error (.array cause)), { s with store := store }) := Turn.run_act_of_error herr
  have hrun : StateT.run (ExceptT.run (Command.run (.array (.acquire name))))
      { s with store := store } = (.error (.error (.array cause)), { s with store := store }) :=
    (Turn.run_bind_of_ok hfind).trans (Turn.run_bind_of_error hact)
  rw [step, ← hstore, hrun, hstore]
  rfl

/-- How the arrays behave that share the slot of a key, in a session that a run of commands
    led to. -/
structure Coherent (commands : List Command) (p : PoolId) (key : PoolKey) (s : Session) :
    Prop where
  /-- All that are acquired have one allocation. -/
  shared : ∀ {a a' b b'}, s.Sharing p key a → s.Sharing p key a' → a.array.buffer = some b →
    a'.array.buffer = some b' → b.allocation = b'.allocation
  /-- Each reads all of it, as scalars of its own type. -/
  reads : ∀ {a b a'}, s.Sharing p key a → s.Sharing p key a' → a.array.buffer = some b →
    a'.array.isAcquired = true →
    Action.exec a'.array.toHost s.store =
      (.ok (Scalar.decodeAll a'.t (s.store.bytes b.allocation)), s.store)
  /-- So it is after every write through any of them. -/
  writes : ∀ {a b a' write s'}, s.Sharing p key a → s.Sharing p key a' → a.array.buffer = some b →
    a'.array.isAcquired = true → s.Writes a.array write →
    Action.exec write s.store = (.ok (), s') →
    Action.exec a'.array.toHost s' = (.ok (Scalar.decodeAll a'.t (s'.bytes b.allocation)), s')
  /-- What the host wrote through one is all that there is. -/
  ofHost : ∀ {a b values s'}, s.Sharing p key a → a.array.buffer = some b →
    Action.exec (a.array.ofHost values) s.store = (.ok (), s') →
    s'.bytes b.allocation = Scalar.encodeAll values
  zero : ∀ {a b s'}, s.Sharing p key a → a.array.buffer = some b →
    Action.exec a.array.zero s.store = (.ok (), s') →
    s'.bytes b.allocation = List.replicate (s.store.sizeOf b.allocation) 0
  /-- An acquired array is not acquired again. -/
  again : ∀ {a b}, s.Sharing p key a → a.array.buffer = some b →
    Action.exec a.array.acquire s.store = (.ok (false, a.array), s.store)
  /-- An acquisition is fresh if nothing is left of what the key had. -/
  fresh : ∀ {a flag a' s'}, s.Sharing p key a → a.array.buffer = none →
    Action.exec a.array.acquire s.store = (.ok (flag, a'), s') →
    (flag = true ↔ (∀ A, Made commands p key A → A ∉ s.inHands) ∧
      (Pool.retainsOf p s.store = true → ¬∃ A, Made commands p key A))
  /-- If it is not, the array has what the key has. No byte changes either way. -/
  intact : ∀ {a flag a' s'}, s.Sharing p key a → a.array.buffer = none →
    Action.exec a.array.acquire s.store = (.ok (flag, a'), s') →
    (∃ b, a' = { a.array with buffer := some b } ∧
      (flag = false → Live commands p key b.allocation)) ∧
      ∀ {id block}, s.store.block? id = some block → s'.block? id = some block
  /-- Another size is refused as long as the key is live, and the array is not acquired. -/
  mismatch : ∀ {name a A size}, s.arrays.lookup name = some a → s.Sharing p key a →
    a.array.buffer = none → Live commands p key A → byteSize? a.t a.array.shape = some size →
    size ≠ s.store.sizeOf A →
    Action.exec a.array.acquire s.store =
        (.error (.error (.device (.slotMismatch key.id (s.store.sizeOf A) size))), s.store) ∧
      (s.step (.array (.acquire name))).1.outcome =
        .error (.error (.array (.device (.slotMismatch key.id (s.store.sizeOf A) size)))) ∧
      (s.step (.array (.acquire name))).2.arrays = s.arrays

/-- All acquired arrays of the key have one allocation, and each spans it. -/
theorem Resident.spans (hres : s.Resident p key) (hs : s.Reachable) {a a' : AnyArray} {b : Buffer}
    (ha : s.Sharing p key a) (ha' : s.Sharing p key a') (hbuffer : a.array.buffer = some b)
    (hacquired : a'.array.isAcquired = true) :
    0 < s.store.handles b.allocation ∧ ∃ block, s.store.block? b.allocation = some block ∧
      a'.array.Spans b.allocation block := by
  obtain ⟨name, hmem⟩ := ha.named
  obtain ⟨b', hbuffer'⟩ := Option.isSome_iff_exists.mp hacquired
  obtain ⟨hlive', hcovers⟩ := hres ha' hbuffer'
  have hsame : b'.allocation = b.allocation :=
    Option.some.inj (hlive'.symm.trans (hres ha hbuffer).1)
  refine ⟨hs.sound.handles_pos_of_array hmem hbuffer, ?_⟩
  rw [← hsame]
  exact BlockArray.exists_spans hs.sound.balanced hbuffer' hcovers

/-- Whatever was written through one array, every other reads. -/
theorem Resident.reads_written (hres : s.Resident p key) (hs : s.Reachable) {a a' : AnyArray}
    {b : Buffer} (ha : s.Sharing p key a) (ha' : s.Sharing p key a')
    (hbuffer : a.array.buffer = some b) (hacquired : a'.array.isAcquired = true)
    {write : Action ArrayError Unit} (hwrite : s.Writes a.array write) {s' : Store}
    (hexec : Action.exec write s.store = (.ok (), s')) :
    Action.exec a'.array.toHost s' =
      (.ok (Scalar.decodeAll a'.t (s'.bytes b.allocation)), s') := by
  obtain ⟨hpos, block, hblock, hspans⟩ := hres.spans hs ha ha' hbuffer hacquired
  have hend := Action.of_exec_triple (hwrite.since hs.sound hbuffer hpos) (.refl _) hexec
  obtain ⟨block', hblock', hspans'⟩ := hspans.since hblock hpos hend
  exact hspans'.exec_toHost hblock'

/-- An array without memory acquires its key. -/
theorem Sharing.acquired {a : AnyArray} (ha : s.Sharing p key a) (hs : s.Reachable)
    (hbuffer : a.array.buffer = none) {flag : Bool} {a' : BlockArray a.t a.e} {s' : Store}
    (hexec : Action.exec a.array.acquire s.store = (.ok (flag, a'), s')) :
    ∃ b acquisition, Pool.Acquired p key a.t a.array.shape s.store (b, acquisition) s' ∧
      flag = acquisition.isFresh ∧ a' = { a.array with buffer := some b } := by
  have hend := Action.of_exec_triple (BlockArray.triple_acquired hs.sound.balanced a.array) rfl
    hexec
  cases hend with
  | again hsome =>
    rw [hbuffer] at hsome
    cases hsome
  | owned hsome =>
    rw [hbuffer] at hsome
    cases hsome
  | slot hnone hshared hpool hslot =>
    cases hshared.symm.trans ha.ownership
    cases hpool.symm.trans ha.pool
    exact ⟨_, _, hslot, rfl, rfl⟩

/-- In a run that never forgets the key, the arrays that share its slot are coherent. -/
theorem shared_arrays_coherent (hclean : empty.isClean commands = true)
    (hkey : Undisturbed commands p key) : Coherent commands p key (empty.after commands) := by
  have hs : (empty.after commands).Reachable := Reachable.empty.after hclean
  have hres : (empty.after commands).Resident p key := resident hclean hkey
  have hopen {a : AnyArray} (ha : (empty.after commands).Sharing p key a) :
      (empty.after commands).store.Open p := hs.sound.isOpen ha.mem_livePools
  refine ⟨fun ha ha' hb hb' => ?_, fun ha ha' hb hacquired => ?_,
    fun ha ha' hb hacquired hwrite hexec => hres.reads_written hs ha ha' hb hacquired hwrite hexec,
    fun ha hb hexec => ?_, fun ha hb hexec => ?_,
    fun ha hb => BlockArray.exec_acquire_again hb ha.ownership _, fun ha hb hexec => ?_,
    fun ha hb hexec => ?_, fun hname ha hb hkept hsize hother => ?_⟩
  · exact Option.some.inj ((hres ha hb).1.symm.trans (hres ha' hb').1)
  · obtain ⟨-, block, hblock, hspans⟩ := hres.spans hs ha ha' hb hacquired
    exact hspans.exec_toHost hblock
  · obtain ⟨block, hblock, hspans⟩ := BlockArray.exists_spans hs.sound.balanced hb (hres ha hb).2
    exact hspans.bytes_ofHost hblock hexec
  · obtain ⟨block, hblock, hspans⟩ := BlockArray.exists_spans hs.sound.balanced hb (hres ha hb).2
    rw [hspans.bytes_zero hblock hexec, hs.sound.balanced.sizeOf_eq hblock]
  · obtain ⟨b, acquisition, hslot, rfl, rfl⟩ := ha.acquired hs hb hexec
    rw [hslot.isFresh_iff, live?_eq_none_iff hclean hkey (hopen ha)]
  · obtain ⟨b, acquisition, hslot, rfl, rfl⟩ := ha.acquired hs hb hexec
    refine ⟨⟨b, rfl, fun hreused => ?_⟩, fun hblock => hslot.block?_eq hs.sound.balanced hblock⟩
    exact (live?_iff_live hclean (hopen ha)).mp (hslot.live?_of_reused hreused)
  · have hlive := (live?_iff_live hclean (hopen ha)).mpr hkept
    refine ⟨BlockArray.exec_acquire_refused hb ha.ownership ha.pool hlive hsize hother, ?_⟩
    rw [step_acquire_failed hname rfl
      (BlockArray.exec_acquire_refused hb ha.ownership ha.pool hlive hsize hother)]
    exact ⟨rfl, rfl⟩

/-- Commands that write two narrow scalars through one array and acquire the same bytes as one
    wide scalar. -/
def sharedRun : List Command :=
  [.allocator (.make "device" .host [.metered]),
    .pool (.make "shared" "device" false),
    .array (.shared "narrow" .int32 .scalar "shared" ⟨1, Nat.one_ne_zero⟩ 2),
    .array (.shared "wide" .int64 .scalar "shared" ⟨1, Nat.one_ne_zero⟩ 1),
    .array (.acquire "narrow"),
    .array (.ofHost "narrow" [.integer 1, .integer 2]),
    .array (.acquire "wide")]

theorem shared_arrays_coherent_sharedRun :
    ((empty.after sharedRun).step (.array (.toHost "wide"))).1.outcome =
        .ok (.scalars [.integer 8589934593]) ∧
      Undisturbed sharedRun 0 ⟨1, Nat.one_ne_zero⟩ ∧
      Coherent sharedRun 0 ⟨1, Nat.one_ne_zero⟩ (empty.after sharedRun) := by
  have hkey : Undisturbed sharedRun 0 ⟨1, Nat.one_ne_zero⟩ :=
    undisturbed_of_forgets (by simp [sharedRun, Command.forgets])
  exact ⟨rfl, hkey, shared_arrays_coherent rfl hkey⟩

end DeviceMemory.Session
