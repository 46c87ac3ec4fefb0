-- SUMMARY: What becomes of the buffer or array under a name with one command, and what this keeps of every named object.
import DeviceMemory.Proofs.Buffer.Formed
import DeviceMemory.Proofs.Session.Coherence
import DeviceMemory.Proofs.Session.Fresh

/-!
# Fates of names

A command that ends well may take a name, for another object or for none, or
acquire the array that has it. With any other command the name stands for what it
stood for, launched on another grid at most (`Fate`). So what holds of new
and of acquired objects and is not lost on the way holds of all: named buffers are
formed (`Reachable.formed`) and named arrays fit their memory (`Reachable.fitted`).
-/

namespace DeviceMemory

open DeviceMemory.Action

/-! ## Buffers and arrays over whole allocations -/

/-- A buffer that covers an allocation is formed. -/
theorem Buffer.Covers.formed {t : ScalarType} {shape : List Nat} {b : Buffer} {s : Store}
    (hb : b.Covers t shape s) : b.Formed s := by
  obtain ⟨a, ha, -, hsize, hwhole⟩ := hb
  rw [hwhole]
  exact formed_whole ha hsize

/-- An array fits its memory as long as that has a handle. -/
theorem BlockArray.Fitted.grown {t : ScalarType} {e : ElementShape} {a : BlockArray t e}
    {s s' : Store} {written : Set AllocationId} (ha : a.Fitted s) (hs : s.Grown written s')
    (hheld : ∀ b, a.buffer = some b → 0 < s'.handles b.allocation) : a.Fitted s' where
  owned := ha.owned
  covers b hb := hs.covers (ha.covers b hb) (hheld b hb)

/-- What an acquisition leaves fits, if its array did. -/
theorem BlockArray.Acquired.fitted {t : ScalarType} {e : ElementShape} {a : BlockArray t e}
    {s s' : Store} {h : Holdings} {result : Bool × BlockArray t e} (hs : s.Balanced h)
    (hformed : s.SlotsFormed) (ha : a.Fitted s) (hacquired : a.Acquired s result s')
    (hheld : ∀ b, result.2.buffer = some b → 0 < s'.handles b.allocation) :
    result.2.Fitted s' := by
  cases hacquired with
  | again hbuffer hshared => exact ha
  | owned hbuffer howned hsince => exact ha.grown (Store.Onward.of_since hsince).toGrown hheld
  | slot hbuffer hshared hpool hslot =>
    refine ⟨fun howned => ?_, ?_⟩
    · cases hshared.symm.trans howned
    · rintro _ ⟨⟩
      exact hformed.covers hs hslot

theorem BlockArray.Acquired.holds_buffer {t : ScalarType} {e : ElementShape} {a : BlockArray t e}
    {s s' : Store} {result : Bool × BlockArray t e} (hacquired : a.Acquired s result s') :
    result.2.isAcquired = true ∧ result.2.ownership = a.ownership := by
  cases hacquired with
  | again hbuffer hshared => exact ⟨by rw [BlockArray.isAcquired, hbuffer]; rfl, rfl⟩
  | owned hbuffer howned hsince => exact ⟨by rw [BlockArray.isAcquired, hbuffer]; rfl, rfl⟩
  | slot hbuffer hshared hpool hslot => exact ⟨rfl, rfl⟩

/-- An array that has memory stays as it is. -/
theorem BlockArray.Acquired.eq_of_isAcquired {t : ScalarType} {e : ElementShape}
    {a : BlockArray t e} {s s' : Store} {result : Bool × BlockArray t e}
    (hresult : a.Acquired s result s') (hacquired : a.isAcquired = true) : result.2 = a := by
  cases hresult with
  | again hbuffer hshared => rfl
  | owned hbuffer howned hsince => rfl
  | slot hbuffer hshared hpool hslot =>
    rw [BlockArray.isAcquired, hbuffer] at hacquired
    cases hacquired

/-- The array, launched on another grid. -/
def AnyArray.withGrid (a : AnyArray) (g : Grid) : AnyArray :=
  ⟨a.t, a.e, a.array.withGrid g⟩

/-- What has a name stays, perhaps on another grid. -/
def Regridded : Option AnyArray → Option AnyArray → Prop :=
  Option.Rel fun a a' => ∃ g, a' = a.withGrid g

theorem Regridded.refl (a : Option AnyArray) : Regridded a a := by
  cases a with
  | none => exact .none
  | some a => exact .some ⟨a.array.grid, rfl⟩

theorem Regridded.eq_some_left {old : Option AnyArray} {a : AnyArray}
    (h : Regridded old (some a)) : ∃ a₀ g, old = some a₀ ∧ a = a₀.withGrid g := by
  cases h with
  | some h =>
    obtain ⟨g, rfl⟩ := h
    exact ⟨_, g, rfl, rfl⟩

theorem Regridded.eq_some_right {new : Option AnyArray} {a : AnyArray}
    (h : Regridded (some a) new) : ∃ g, new = some (a.withGrid g) := by
  cases h with
  | some h =>
    obtain ⟨g, rfl⟩ := h
    exact ⟨g, rfl⟩

namespace Session

variable {s s' : Session} {c : Command} {name : String} {answer : Answer}

/-! ## Steps and the journal -/

theorem Reachable.slotsFormed_quiet (hs : s.Reachable) : s.quiet.store.SlotsFormed :=
  ⟨hs.slotsFormed.known, hs.slotsFormed.kind, hs.slotsFormed.memory, hs.slotsFormed.apart⟩

/-- A step that is no trap ends with an answer, or it fails and leaves all names. -/
theorem Reachable.ok_or_failed (hs : s.Reachable) (hc : c.isDirect = false)
    (htrap : (s.step c).1.isTrap = false) :
    (∃ answer, (s.step c).1.outcome = .ok answer) ∨
      (¬∃ answer, (s.step c).1.outcome = .ok answer) ∧ s.Failed (s.step c).2 := by
  cases hout : (s.step c).1.outcome with
  | ok answer => exact .inl ⟨answer, rfl⟩
  | error fault =>
    cases fault with
    | trap => simp [Reply.isTrap, hout] at htrap
    | error cause =>
      refine .inr ⟨?_, hs.sound.step_failed hs.slotsFormed hc hout⟩
      rintro ⟨answer, ⟨⟩⟩

/-- A named array is a handle to the memory it has. -/
theorem Sound.handles_pos_of_lookup (hs : s.Sound) {a : AnyArray}
    (ha : s.arrays.lookup name = some a) (b : Buffer) (hb : a.array.buffer = some b) :
    0 < s.store.handles b.allocation :=
  hs.handles_pos_of_array (Entries.mem_of_lookup ha) hb

/-! ## Arrays -/

/-- The command gave the name to another array, or took it away. -/
def Command.Takes (s : Session) (c : Command) (name : String) : Prop :=
  (∃ answer, (s.step c).1.outcome = .ok answer) ∧ c.array? = some name

/-- The command acquired the array that has the name. -/
def Command.Acquires (s : Session) (c : Command) (name : String) : Prop :=
  (∃ answer, (s.step c).1.outcome = .ok answer) ∧ c = .array (.acquire name)

/-- What one command makes of the array with a name. -/
inductive Fate (s : Session) (c : Command) (name : String) (s' : Session) : Prop where
  /-- If there is an array now, it is new. -/
  | taken (h : c.Takes s name)
      (hnew : ∀ a, s'.arrays.lookup name = some a →
        a.array.Unfilled ∧ a.array.Fitted s'.store)
  | acquired (h : c.Acquires s name) {a : AnyArray} {flag : Bool} {array : BlockArray a.t a.e}
      (hold : s.arrays.lookup name = some a)
      (hacquired : a.array.Acquired s.quiet.store (flag, array) s'.store)
      (hnew : s'.arrays.lookup name = some ⟨a.t, a.e, array⟩)
  | kept (htakes : ¬c.Takes s name) (hacquires : ¬c.Acquires s name)
      (hsame : Regridded (s.arrays.lookup name) (s'.arrays.lookup name))

/-- What has the name after a command that takes it is new. -/
theorem Sound.built_of_run (hs : s.Sound) {c : ArrayCommand} (hname : c.name? = some name)
    (hrun : StateT.run (ExceptT.run c.run) s = (.ok answer, s')) {a : AnyArray}
    (ha : s'.arrays.lookup name = some a) :
    ∃ store, a.array.Built s.store store ∧ store.Onward ∅ ∅ s'.store := by
  have hmade {t : ScalarType} {e : ElementShape} {act : Action ArrayError (BlockArray t e)}
      (hact : BlockArray.Builds s.store act)
      (hrun : StateT.run (ExceptT.run (Turn.onArray act >>= fun a =>
        nameArray name ⟨t, e, a⟩ >>= fun _ => pure Answer.nothing)) s = (.ok answer, s')) :
      ∃ store, a.array.Built s.store store ∧ store.Onward ∅ ∅ s'.store := by
    obtain ⟨made, store, hexec, hrest⟩ := Turn.of_run_act_bind hrun
    cases hrest
    cases (Names.lookup_put ..).symm.trans ha
    exact ⟨store, of_exec_triple hact rfl hexec, onward_dropArray ..⟩
  cases c with
  | new id t e alloc len =>
    cases hname
    obtain ⟨a, -, hrest⟩ := Turn.of_run_find_bind hrun
    exact hmade (BlockArray.builds_new e t a len) hrest
  | fromHost id t e alloc literals =>
    cases hname
    obtain ⟨a, -, hrest⟩ := Turn.of_run_find_bind hrun
    obtain ⟨values, -, hrest⟩ := Turn.of_run_required_bind hrest
    exact hmade (BlockArray.builds_fromHost e t a values) hrest
  | shared id t e pool key len =>
    cases hname
    obtain ⟨p, hp, hrest⟩ := Turn.of_run_find_bind hrun
    have hpos := hs.poolHandles_pos (mem_pools_of_pool hs.distinct hp)
    exact hmade (BlockArray.builds_shared hpos e t key len) hrest
  | withId id t e pool key len =>
    cases hname
    obtain ⟨p, hp, hrest⟩ := Turn.of_run_find_bind hrun
    have hpos := hs.poolHandles_pos (mem_pools_of_pool hs.distinct hp)
    exact hmade (BlockArray.builds_withId hpos e t key len) hrest
  | inContext id t e ctx len =>
    cases hname
    obtain ⟨c, -, hrest⟩ := Turn.of_run_find_bind hrun
    exact hmade (BlockArray.builds_inContext e t c len) hrest
  | sharedIn id t e ctx key len =>
    cases hname
    obtain ⟨c, hc, hrest⟩ := Turn.of_run_find_bind hrun
    have hpos := hs.poolHandles_pos (mem_pools_of_context hs.distinct hc)
    exact hmade (BlockArray.builds_sharedIn hpos e t key len) hrest
  | drop id =>
    cases hname
    cases hrun
    cases (Entries.lookup_filter ..).symm.trans ha
  | _ => cases hname

/-- A command takes the name of an array, acquires it, or keeps it. -/
theorem Reachable.fate (hs : s.Reachable) (hc : c.isDirect = false)
    (htrap : (s.step c).1.isTrap = false) (name : String) : Fate s c name (s.step c).2 := by
  have hs' : (s.step c).2.Sound := hs.sound.step hc htrap
  rcases hs.ok_or_failed hc htrap with ⟨answer, hok⟩ | ⟨hnot, store, -, hnext⟩
  swap
  · refine .kept (fun htakes => hnot htakes.1) (fun hacquires => hnot hacquires.1) ?_
    rw [hnext]
    exact .refl _
  obtain ⟨hrun, -⟩ := run_of_step hok
  by_cases htakes : c.array? = some name
  · refine .taken ⟨⟨answer, hok⟩, htakes⟩ fun a ha => ?_
    cases c with
    | array c =>
      obtain ⟨store, hbuilt, honward⟩ := hs.sound.quiet.built_of_run htakes hrun ha
      exact ⟨hbuilt.unfilled, hbuilt.fitted.grown honward.toGrown (hs'.handles_pos_of_lookup ha)⟩
    | _ => cases htakes
  by_cases hputs : c.puts? = some name
  swap
  · refine .kept (fun h => htakes h.2) (fun ⟨_, h⟩ => hputs (h ▸ rfl)) ?_
    rw [lookup_arrays_step htakes hputs]
    exact .refl _
  cases c with
  | array c =>
    cases c with
    | setGrid arr g =>
      cases hputs
      obtain ⟨a, ha, hrest⟩ := Turn.of_run_find_bind hrun
      refine .kept (fun h => htakes h.2) (fun ⟨_, h⟩ => nomatch h) ?_
      obtain ⟨-, hnext⟩ := Prod.mk.inj hrest
      rw [← hnext]
      change Regridded (s.arrays.lookup name) ((s.arrays.put name (a.withGrid g)).lookup name)
      rw [Names.lookup_put, show s.arrays.lookup name = some a from ha]
      exact .some ⟨g, rfl⟩
    | acquire arr =>
      cases hputs
      obtain ⟨a, ha, hrest⟩ := Turn.of_run_find_bind hrun
      obtain ⟨⟨flag, array⟩, store, hexec, hrest⟩ := Turn.of_run_act_bind hrest
      have hresult := of_exec_triple
        (BlockArray.triple_acquired hs.sound.quiet.balanced a.array) rfl hexec
      obtain ⟨-, hnext⟩ := Prod.mk.inj hrest
      have hstore : (s.step (.array (.acquire name))).2.store = store := by rw [← hnext]
      refine .acquired ⟨⟨answer, hok⟩, rfl⟩ ha (hstore ▸ hresult) ?_
      rw [← hnext]
      exact Names.lookup_put ..
    | _ => cases hputs
  | _ => cases hputs

/-- Every named array fits its memory. -/
theorem Reachable.fitted (hs : s.Reachable) {a : AnyArray} (ha : s.arrays.lookup name = some a) :
    a.array.Fitted s.store := by
  induction hs generalizing a with
  | empty => cases ha
  | @step s c hs hc htrap ih =>
    have hs' : (s.step c).2.Sound := hs.sound.step hc htrap
    have hgrown := (hs.moves hc htrap).store.toGrown
    have hheld := hs'.handles_pos_of_lookup ha
    cases hs.fate hc htrap name with
    | taken _ hnew => exact (hnew a ha).2
    | @acquired _ old flag array hold hacquired hnew =>
      cases hnew.symm.trans ha
      have hfitted : old.array.Fitted s.quiet.store := ⟨(ih hold).owned, (ih hold).covers⟩
      exact hacquired.fitted hs.sound.quiet.balanced hs.slotsFormed_quiet hfitted hheld
    | kept _ _ hsame =>
      rw [ha] at hsame
      obtain ⟨old, g, hold, rfl⟩ := hsame.eq_some_left
      exact BlockArray.Fitted.grown ⟨(ih hold).owned, (ih hold).covers⟩ hgrown hheld

/-! ## Buffers -/

/-- A buffer that gets a name stays formed. -/
theorem formed_of_run_answerBuffer {made b : Buffer} {store : Store} (hmade : made.Formed store)
    (hrun : StateT.run (ExceptT.run (answerBuffer name made)) { s with store := store } =
      (.ok answer, s'))
    (hb : s'.buffers.lookup name = some b) : b.Formed s'.store := by
  obtain ⟨hlookup, hleads⟩ := lookup_answerBuffer hrun
  cases hlookup.symm.trans hb
  exact hmade.leads hleads

/-- So does one that an operation made from what had another name. -/
theorem formed_of_run_made {α : Type} {table : Session → Names α} {source : String}
    {make : α → Action DeviceError Buffer}
    (hrun : StateT.run (ExceptT.run (Turn.find table source >>= fun a =>
      Turn.onDevice (make a) >>= answerBuffer name)) s = (.ok answer, s'))
    {b : Buffer} (hb : s'.buffers.lookup name = some b)
    (hmake : ∀ {a made store}, (table s).lookup source = some a →
      exec (make a) s.store = (.ok made, store) → made.Formed store) : b.Formed s'.store := by
  obtain ⟨a, ha, hrest⟩ := Turn.of_run_find_bind hrun
  obtain ⟨made, store, hexec, hanswer⟩ := Turn.of_run_act_bind hrest
  exact formed_of_run_answerBuffer (hmake ha hexec) hanswer hb

/-- A buffer that a command made is formed, if all were before. -/
theorem Reachable.formed_of_made (hs : s.Reachable)
    (hformed : ∀ {name b}, s.buffers.lookup name = some b → b.Formed s.store)
    (hname : c.buffer? = some name) (hok : (s.step c).1.outcome = .ok answer) {b : Buffer}
    (hb : (s.step c).2.buffers.lookup name = some b) : b.Formed (s.step c).2.store := by
  obtain ⟨hrun, -⟩ := run_of_step hok
  have hquiet {b : Buffer} (hb : b.Formed s.store) : b.Formed s.quiet.store := by
    have hleads : s.store.Leads ∅ s.quiet.store := .aside ..
    exact hb.leads hleads
  generalize (s.step c).2 = s' at *
  cases c with
  | buffer c =>
    cases c with
    | create id alloc t shape zeroed =>
      cases hname
      exact formed_of_run_made hrun hb fun _ hexec => Buffer.formed_of_exec_create hexec
    | allocate id alloc t shape zeroed =>
      cases hname
      exact formed_of_run_made hrun hb fun _ hexec => Buffer.formed_of_exec_allocate hexec
    | view id buf offset size =>
      cases hname
      exact formed_of_run_made hrun hb fun hsource hexec =>
        (hquiet (hformed hsource)).of_exec_view hexec
    | clone id buf =>
      cases hname
      exact formed_of_run_made hrun hb fun hsource hexec =>
        (hquiet (hformed hsource)).of_exec_clone hexec
    | detach id buf =>
      cases hname
      exact formed_of_run_made hrun hb fun _ hexec => Buffer.formed_of_exec_detach hexec
    | drop id =>
      cases hname
      cases hrun
      cases (Entries.lookup_filter ..).symm.trans hb
    | _ => cases hname
  | pool c =>
    cases c with
    | acquire id pool key t shape =>
      cases hname
      obtain ⟨p, -, hrest⟩ := Turn.of_run_find_bind hrun
      obtain ⟨⟨made, acquisition⟩, store, hexec, hanswer⟩ := Turn.of_run_act_bind hrest
      have hend : Ends (Pool.Acquired p key t shape s.quiet.store) _ _ :=
        Pool.acquire_ends p key t shape
      rw [hexec] at hend
      have hcovers := hs.slotsFormed_quiet.covers hs.sound.quiet.balanced hend
      obtain ⟨-, hnext⟩ := Prod.mk.inj hanswer
      rw [← hnext] at hb ⊢
      cases (Names.lookup_put ..).symm.trans hb
      have hleads : store.Leads ∅ (dropOld Buffer.drop (s.buffers.lookup name) store) :=
        leads_dropOld (fun (b : Buffer) s => .dropHandle s b.allocation) _ store
      exact hcovers.formed.leads hleads
    | _ => cases hname
  | array c =>
    cases c with
    | shareBuffer id arr =>
      cases hname
      obtain ⟨a, ha, hrest⟩ := Turn.of_run_find_bind hrun
      split at hrest
      next =>
        cases hrest
        exact hquiet (hformed hb)
      next source hsource =>
        obtain ⟨made, store, hexec, hanswer⟩ := Turn.of_run_act_bind hrest
        have hcovers := (hs.fitted ha).covers source hsource
        exact formed_of_run_answerBuffer ((hquiet hcovers.formed).of_exec_clone hexec) hanswer hb
    | _ => cases hname
  | _ => cases hname

/-- Every named buffer is formed. -/
theorem Reachable.formed (hs : s.Reachable) {b : Buffer} (hb : s.buffers.lookup name = some b) :
    b.Formed s.store := by
  induction hs generalizing name b with
  | empty => cases hb
  | @step s c hs hc htrap ih =>
    have hkept (hsame : (s.step c).2.buffers.lookup name = s.buffers.lookup name) :
        b.Formed (s.step c).2.store := (ih (hsame ▸ hb)).leads (step_leads s c)
    rcases hs.ok_or_failed hc htrap with ⟨answer, hok⟩ | ⟨-, store, -, hnext⟩
    · by_cases hname : c.buffer? = some name
      · exact hs.formed_of_made ih hname hok hb
      · exact hkept (lookup_buffers_step hname s)
    · exact hkept (by rw [hnext])

end Session

end DeviceMemory
