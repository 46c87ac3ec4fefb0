-- SUMMARY: Memory asked for as zeros is zeros, however old it is, and a buffer made for zeros reads zeros until a command overwrites it.
import DeviceMemory.Proofs.Session.Changes

/-!
# Fresh memory

A stack grants what was asked for in every state, so after every history
(`Stack.fresh_of_alloc`). An allocation made for zeros is pristine as long as it is
not overwritten: it has no memory yet, or all its memory is zeros. No change of a
store breaks that (`Leads.pristine`), so it is carried through any commands, with
raw blocks moved in between and traps on the way, and a buffer shows it when it is
read (`fresh_memory`).
-/

namespace DeviceMemory

namespace Store

variable {s s' : Store} {written : Set AllocationId} {A : AllocationId} {size : Nat}

/-! ## Pristine allocations -/

/-- An allocation of this size was made for zeros, and has no memory yet or only zeros. -/
def Pristine (A : AllocationId) (size : Nat) (s : Store) : Prop :=
  ∃ a, s.allocations[A]? = some a ∧ a.size = size ∧ a.zeroed = true ∧
    ∀ block, a.block = some block → block.bytes = List.replicate size 0

theorem pristine_addAllocation (allocator : AllocatorId) (size : Nat) (s : Store) :
    (s.addAllocation allocator size true).2.Pristine s.allocations.length size :=
  ⟨_, List.getElem?_concat_length, rfl, rfl, fun _ => nofun⟩

/-- An allocation may be replaced by one that was made alike and holds zeros as well. -/
theorem Pristine.setAllocation {id : AllocationId} {a a' : Allocation} (hs : s.Pristine A size)
    (ha : s.allocations[id]? = some a) (hmade : a'.size = a.size ∧ a'.zeroed = a.zeroed)
    (hblock : id = A → ∀ block, a'.block = some block →
      a.block = some block ∨ block.Fresh a.size a.zeroed) :
    (s.setAllocation id a').Pristine A size := by
  obtain ⟨a₀, ha₀, hsize, hzeroed, hzeros⟩ := hs
  by_cases hid : id = A
  · subst hid
    cases ha.symm.trans ha₀
    have hlt : id < s.allocations.length := (List.getElem?_eq_some_iff.mp ha).1
    refine ⟨a', List.getElem?_set_self hlt, hmade.1.trans hsize, hmade.2.trans hzeroed,
      fun block hblock' => ?_⟩
    rcases hblock rfl block hblock' with hsame | hfresh
    · exact hzeros block hsame
    · exact hsize ▸ hfresh.2 hzeroed
  · exact ⟨a₀, (List.getElem?_set_ne hid).trans ha₀, hsize, hzeroed, hzeros⟩

/-- Only overwriting it ends this. -/
theorem Change.pristine (h : s.Change written s') (hA : A ∉ written) (hs : s.Pristine A size) :
    s'.Pristine A size := by
  cases h with
  | aside => exact hs
  | stack => exact hs
  | state => exact hs
  | made allocator size' zeroed =>
    obtain ⟨a, ha, hrest⟩ := hs
    have hlt : A < s.allocations.length := (List.getElem?_eq_some_iff.mp ha).1
    exact ⟨a, (List.getElem?_append_left hlt).trans ha, hrest⟩
  | counted ha handles => exact hs.setAllocation ha ⟨rfl, rfl⟩ fun _ block hblock => .inl hblock
  | unused ha => exact hs.setAllocation ha ⟨rfl, rfl⟩ fun _ block => nofun
  | granted ha hfresh =>
    refine hs.setAllocation ha ⟨rfl, rfl⟩ fun _ block hblock => .inr ?_
    cases hblock
    exact hfresh
  | overwritten ha hblock hsize hid =>
    exact hs.setAllocation ha ⟨rfl, rfl⟩ fun heq => absurd (heq ▸ hid) hA

theorem Leads.pristine (h : s.Leads written s') (hA : A ∉ written) (hs : s.Pristine A size) :
    s'.Pristine A size := by
  obtain ⟨a, ha, -⟩ := id hs
  have hlt : A < s.allocations.length := (List.getElem?_eq_some_iff.mp ha).1
  refine h.preserves (fun hchange hs₁ => hchange.pristine ?_ hs₁) hs
  rintro (hmem | hnew)
  · exact hA hmem
  · exact absurd (Set.mem_Ici.mp hnew) (Nat.not_le.mpr hlt)

theorem Pristine.of_exec_acquire {b : Buffer} (hs : s.Pristine A size)
    (h : b.acquire.exec s = (.ok (), s')) : s'.Pristine A size := by
  have hleads : s.Leads ∅ (s.allocate b.allocation).2 := .allocate ..
  rw [Buffer.acquire, Action.exec_of] at h
  rw [h] at hleads
  exact hleads.pristine (Set.notMem_empty _) hs

end Store

/-! ## Reading zeros -/

theorem Block.read?_of_zeros {b : Block} {total offset size : Nat}
    (hb : b.bytes = List.replicate total 0) :
    b.read? offset size =
      if offset + size ≤ total then some (List.replicate size 0) else none := by
  rw [Block.read?, Block.size, hb, List.length_replicate]
  split
  next hfits =>
    have hlength : min size (total - offset) = size := by omega
    rw [List.drop_replicate, List.take_replicate, hlength]
  next => rfl

namespace Buffer

open DeviceMemory.Action

variable {s s' : Store} {b : Buffer} {total size : Nat} {bytes : List UInt8}

/-- Zeros are read wherever the range lies. -/
theorem bytes_of_exec_load (hs : s.Pristine b.allocation total)
    (h : b.load.exec s = (.ok bytes, s')) : bytes = List.replicate b.size 0 := by
  obtain ⟨a, ha, -, -, hzeros⟩ := hs
  rw [exec_load] at h
  cases hblock : s.block? b.allocation with
  | none =>
    rw [hblock] at h
    cases h
  | some block =>
    have hzero := hzeros block (by rwa [Store.block?, ha] at hblock)
    rw [hblock] at h
    dsimp only at h
    rw [exec_checked, Block.read?_of_zeros hzero] at h
    split at h
    next read hread =>
      cases h
      split at hread <;> cases hread
      rfl
    next => cases h

theorem bytes_of_exec_read (hs : s.Pristine b.allocation total)
    (h : (b.read size).exec s = (.ok bytes, s')) : bytes = List.replicate b.size 0 := by
  obtain ⟨_, s₁, hacquire, hrest⟩ := exists_of_exec_bind h
  obtain ⟨-, hload⟩ := of_exec_ensure_bind hrest
  exact bytes_of_exec_load (hs.of_exec_acquire hacquire) hload

/-- A buffer that has memory and lies inside its allocation is read. -/
theorem exec_read_of_acquire (hs : s.Pristine b.allocation total)
    (hfits : b.offset + b.size ≤ total) (hacquire : b.acquire.exec s = (.ok (), s')) :
    (b.read b.size).exec s = (.ok (List.replicate b.size 0), s') := by
  have hs' : s'.Pristine b.allocation total := hs.of_exec_acquire hacquire
  obtain ⟨a, ha, -, -, hzeros⟩ := id hs'
  obtain ⟨block, hblock⟩ := Store.block?_of_allocate hacquire
  have hzero := hzeros block (by rwa [Store.block?, ha] at hblock)
  have hread : block.read? b.offset b.size = some (List.replicate b.size 0) := by
    rw [Block.read?_of_zeros hzero, if_pos hfits]
  rw [read, exec_bind_of_ok hacquire, exec_ensure_bind rfl, exec_load, hblock]
  dsimp only
  rw [hread]
  rfl

end Buffer

/-! ## Buffers of a session -/

namespace Session

variable {s : Session} {A : AllocationId} {commands : List Command}

/-- No command of the list overwrites the allocation. -/
def Unwritten (s : Session) (commands : List Command) (A : AllocationId) : Prop :=
  ∀ before c since, commands = before ++ c :: since → A ∉ c.overwrites (s.after before)

theorem forall_split_nil {P : List Command → Command → Prop} :
    ∀ before d since, [] = before ++ d :: since → P before d := by
  intro before d since hsplit
  simp at hsplit

/-- What holds at every command of a list holds at the first and at those after it. -/
theorem forall_split_cons {c : Command} {P : List Command → Command → Prop} :
    (∀ before d since, c :: commands = before ++ d :: since → P before d) ↔
      P [] c ∧ ∀ before d since, commands = before ++ d :: since → P (c :: before) d := by
  constructor
  · intro h
    refine ⟨h [] c commands rfl, fun before d since hsplit => ?_⟩
    exact h (c :: before) d since (by rw [hsplit, List.cons_append])
  · rintro ⟨hfirst, hrest⟩ before d since hsplit
    rcases List.cons_eq_append_iff.mp hsplit with ⟨rfl, hcons⟩ | ⟨before, rfl, rfl⟩
    · cases hcons
      exact hfirst
    · exact hrest before d since rfl

theorem unwritten_nil : s.Unwritten [] A := forall_split_nil

theorem unwritten_cons {c : Command} :
    s.Unwritten (c :: commands) A ↔
      A ∉ c.overwrites s ∧ (s.step c).2.Unwritten commands A :=
  forall_split_cons

/-- Commands that do not overwrite an allocation leave it pristine. -/
theorem Unwritten.pristine {size : Nat} (h : s.Unwritten commands A)
    (hs : s.store.Pristine A size) : (s.after commands).store.Pristine A size := by
  induction commands generalizing s with
  | nil => exact hs
  | cons c commands ih =>
    obtain ⟨hfirst, hrest⟩ := unwritten_cons.mp h
    exact ih hrest ((step_leads s c).pristine hfirst hs)

/-- The name of a buffer that a turn made. -/
theorem lookup_answerBuffer {id : String} {b : Buffer} {answer : Answer} {s' : Session}
    (h : StateT.run (ExceptT.run (answerBuffer id b)) s = (.ok answer, s')) :
    s'.buffers.lookup id = some b ∧ s.store.Leads ∅ s'.store := by
  have hanswer : (answerBuffer id b).Leads (beside (some id) none) ∅ := leads_answerBuffer id b
  have hleads : s.store.Leads ∅ (StateT.run (ExceptT.run (answerBuffer id b)) s).2.store :=
    (hanswer s).store
  rw [h] at hleads
  refine ⟨?_, hleads⟩
  cases h
  exact Names.lookup_put ..

/-- The buffer that a command made for zeros, and how its allocation begins. -/
theorem pristine_of_made {c : Command} {id alloc : String} {t : ScalarType} {shape : List Nat}
    {answer : Answer}
    (hc : c = .buffer (.create id alloc t shape true) ∨
      c = .buffer (.allocate id alloc t shape true))
    (hok : (s.step c).1.outcome = .ok answer) :
    ∃ b, (s.step c).2.buffers.lookup id = some b ∧ byteSize? t shape = some b.size ∧
      b = Buffer.whole s.store.allocations.length b.size t shape ∧
      (s.step c).2.store.Pristine b.allocation b.size := by
  obtain ⟨hrun, -⟩ := run_of_step hok
  rcases hc with rfl | rfl
  all_goals
    obtain ⟨a, -, hrest⟩ := Turn.of_run_find_bind hrun
    obtain ⟨b, store, hexec, hanswer⟩ := Turn.of_run_act_bind hrest
    obtain ⟨hname, hleads⟩ := lookup_answerBuffer hanswer
  · obtain ⟨hsize, hb, rfl⟩ := Buffer.of_exec_create hexec
    refine ⟨b, hname, hsize, hb, hleads.pristine (Set.notMem_empty _) ?_⟩
    rw [hb]
    exact Store.pristine_addAllocation ..
  · obtain ⟨hsize, hb, rfl⟩ := Buffer.of_exec_allocate hexec
    refine ⟨b, hname, hsize, hb, hleads.pristine (Set.notMem_empty _) ?_⟩
    have hallocate : (s.quiet.store.addAllocation a b.size true).2.Leads ∅
        ((s.quiet.store.addAllocation a b.size true).2.allocate b.allocation).2 := .allocate ..
    refine hallocate.pristine (Set.notMem_empty _) ?_
    rw [hb]
    exact Store.pristine_addAllocation ..

/-- A read in a session, in terms of the buffer that has the name. -/
theorem bytes_of_step_read {name : String} {b : Buffer} {size : Option Nat} {bytes : List UInt8}
    {total : Nat} (hb : s.buffers.lookup name = some b)
    (hs : s.store.Pristine b.allocation total)
    (hok : (s.step (.buffer (.read name size))).1.outcome = .ok (.bytes bytes)) :
    bytes = List.replicate b.size 0 := by
  obtain ⟨hrun, -⟩ := run_of_step hok
  obtain ⟨_, hb', hrest⟩ := Turn.of_run_find_bind hrun
  cases hb.symm.trans hb'
  obtain ⟨_, store, hexec, hanswer⟩ := Turn.of_run_act_bind hrest
  obtain ⟨hbytes, -⟩ := Prod.mk.inj hanswer
  cases hbytes
  exact Buffer.bytes_of_exec_read (s := s.quiet.store) hs hexec

/-- A buffer that can get its memory is read. -/
theorem step_read_of_acquire {name : String} {b : Buffer} {total : Nat}
    (hb : s.buffers.lookup name = some b) (hs : s.store.Pristine b.allocation total)
    (hfits : b.offset + b.size ≤ total)
    (hok : (s.step (.buffer (.acquire name))).1.outcome = .ok .nothing) :
    (s.step (.buffer (.read name none))).1.outcome =
      .ok (.bytes (List.replicate b.size 0)) := by
  obtain ⟨hrun, htrapped⟩ := run_of_step hok
  obtain ⟨_, hb', hrest⟩ := Turn.of_run_find_bind hrun
  cases hb.symm.trans hb'
  obtain ⟨_, store, hexec, hanswer⟩ := Turn.of_run_act_bind hrest
  obtain ⟨-, hnext⟩ := Prod.mk.inj hanswer
  rw [← hnext] at htrapped
  have hread := Buffer.exec_read_of_acquire (s := s.quiet.store) hs hfits hexec
  have hread' : StateT.run (ExceptT.run (Command.buffer (.read name none)).run) s.quiet =
      (.ok (.bytes (List.replicate b.size 0)), { s.quiet with store := store }) := by
    refine (Turn.run_bind_of_ok (Turn.run_find (s := s.quiet) hb)).trans ?_
    exact Turn.run_bind_of_ok (Turn.run_act_eq_ok_iff.mpr ⟨store, hread, rfl⟩)
  rw [step_of_run hread']
  dsimp only
  rw [if_neg (by simpa using htrapped)]

/-- Whatever happened to a stack before, it grants blocks of the size asked for, all zeros if
    zeros were asked for. So a buffer made for zeros shows zeros through every handle to its
    allocation until a command overwrites that, whatever other commands do. -/
theorem fresh_memory :
    (∀ (stack stack' : Stack) (size : Nat) (zeroed : Bool) (block : Block),
      stack.alloc size zeroed = (.ok block, stack') →
        block.size = size ∧ (zeroed = true → block.bytes = List.replicate size 0)) ∧
    ∀ (s : Session) (c : Command) (id alloc : String) (t : ScalarType) (shape : List Nat)
      (answer : Answer),
      c = .buffer (.create id alloc t shape true) ∨
        c = .buffer (.allocate id alloc t shape true) →
      (s.step c).1.outcome = .ok answer →
      ∃ b, (s.step c).2.buffers.lookup id = some b ∧ byteSize? t shape = some b.size ∧
        b = Buffer.whole s.store.allocations.length b.size t shape ∧
        ∀ commands, (s.step c).2.Unwritten commands b.allocation →
          ∀ name b', ((s.step c).2.after commands).buffers.lookup name = some b' →
            b'.allocation = b.allocation →
            (∀ size bytes, (((s.step c).2.after commands).step
                (.buffer (.read name size))).1.outcome = .ok (.bytes bytes) →
              bytes = List.replicate b'.size 0) ∧
            (b'.offset + b'.size ≤ b.size →
              (((s.step c).2.after commands).step
                (.buffer (.acquire name))).1.outcome = .ok .nothing →
              (((s.step c).2.after commands).step
                (.buffer (.read name none))).1.outcome =
                  .ok (.bytes (List.replicate b'.size 0))) := by
  refine ⟨fun _ _ _ _ _ halloc => Stack.fresh_of_alloc halloc, ?_⟩
  intro s c id alloc t shape answer hc hok
  obtain ⟨b, hname, hsize, hb, hs⟩ := pristine_of_made hc hok
  refine ⟨b, hname, hsize, hb, fun commands hunwritten name b' hb' hsame => ?_⟩
  have hlater := hunwritten.pristine hs
  rw [← hsame] at hlater
  exact ⟨fun size bytes hread => bytes_of_step_read hb' hlater hread,
    fun hfits hacquire => step_read_of_acquire hb' hlater hfits hacquire⟩

/-- Commands that overwrite nothing do not overwrite an allocation. -/
theorem unwritten_of_writes (hnone : ∀ c ∈ commands, ∀ s, c.writes s = ∅) :
    s.Unwritten commands A := by
  rintro before c since rfl hmem
  have hwritten := c.overwrites_subset _ hmem
  rw [hnone c (by simp)] at hwritten
  exact Set.notMem_empty _ hwritten

/-- A stack that parks a block with what was written to it. -/
def dirtyStack : Stack := ⟨.host, [.recycling 2], ⟨[⟨0, [1, 2, 3, 4]⟩], (1 : Nat)⟩⟩

/-- Commands that leave such a block parked. -/
def dirtyRun : List Command :=
  [.allocator (.make "device" .host [.recycling 2, .metered]),
    .buffer (.allocate "old" "device" .int32 [2] false),
    .buffer (.write "old" [1, 2, 3, 4, 5, 6, 7, 8]),
    .buffer (.drop "old")]

/-- The parked block comes back as zeros, and a view of a buffer made for zeros shows some. -/
theorem fresh_memory_dirtyRun :
    (∃ block stack, dirtyStack.alloc 4 true = (.ok block, stack) ∧ block.address = 0 ∧
      block.bytes = List.replicate 4 0) ∧
    ((((empty.after dirtyRun).step (.buffer (.create "new" "device" .int32 [2] true))).2.after
        [.buffer (.view "half" "new" 4 4)]).step (.buffer (.read "half" none))).1.outcome =
      .ok (.bytes [0, 0, 0, 0]) := by
  refine ⟨⟨_, _, rfl, rfl, (fresh_memory.1 dirtyStack _ 4 true _ rfl).2 rfl⟩, ?_⟩
  obtain ⟨b, hname, -, -, hreads⟩ :=
    fresh_memory.2 (empty.after dirtyRun) _ "new" "device" .int32 [2] _ (.inl rfl) rfl
  cases hname
  exact (hreads [.buffer (.view "half" "new" 4 4)]
    (unwritten_of_writes (by simp [Command.writes])) "half" _ rfl rfl).2 (by decide) rfl

end Session

end DeviceMemory
