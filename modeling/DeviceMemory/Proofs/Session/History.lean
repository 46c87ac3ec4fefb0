-- SUMMARY: Runs of commands and the keys of pools: a key is live if it was acquired fresh, was not forgotten, and its allocation was kept ever since.
import DeviceMemory.Proofs.Session.Bookkeeping
import DeviceMemory.Proofs.Session.Effects

/-!
# Histories of keys

`Live commands p key A` is about the past: some command acquired the key fresh and
got the allocation `A`, no later command forgot the key, and at every moment since
the pool retained its slots or some named buffer or array was a handle to `A`. It
does not mention the slots of a pool or numbers of handles, but these show the
same: in a pool that is in use, `live?` finds exactly what is live in this sense
(`live?_iff_live`).

The induction is on the run, with the last command taken off: what is live after a
command is what it filed, or what was live before and was not forgotten, as long
as it is kept (`live_concat`, `Reachable.live?_step`).
-/

namespace DeviceMemory.Session

variable {s : Session} {c : Command} {commands : List Command} {p : PoolId} {key : PoolKey}
  {A : AllocationId}

/-! ## Runs -/

theorem after_append (s : Session) (commands since : List Command) :
    s.after (commands ++ since) = (s.after commands).after since := by
  simp [after]

theorem isClean_append {since : List Command} :
    s.isClean (commands ++ since) = true ↔
      s.isClean commands = true ∧ (s.after commands).isClean since = true := by
  induction commands generalizing s with
  | nil => simp [isClean, after]
  | cons c commands ih =>
    simp only [List.cons_append, isClean, Bool.and_eq_true, ih, and_assoc]
    rfl

theorem after_concat (s : Session) (commands : List Command) (c : Command) :
    s.after (commands ++ [c]) = ((s.after commands).step c).2 :=
  after_append s commands [c]

theorem isClean_concat :
    s.isClean (commands ++ [c]) = true ↔
      s.isClean commands = true ∧ c.isDirect = false ∧
        ((s.after commands).step c).1.isTrap = false := by
  rw [isClean_append]
  simp [isClean]

/-- A command of a longer run is the last one, or one of those before. -/
theorem concat_eq_append_cons {d : Command} {before since : List Command} :
    commands ++ [c] = before ++ d :: since ↔
      (commands = before ∧ c = d ∧ since = []) ∨
        ∃ left, since = left ++ [c] ∧ commands = before ++ d :: left := by
  constructor
  · intro hrun
    rcases List.eq_nil_or_concat since with rfl | ⟨left, last, rfl⟩
    · obtain ⟨rfl, hlast⟩ := List.append_inj' hrun rfl
      exact .inl ⟨rfl, List.head_eq_of_cons_eq hlast, rfl⟩
    · rw [List.concat_eq_append, ← List.cons_append, ← List.append_assoc] at hrun
      obtain ⟨hcommands, hlast⟩ := List.append_inj' hrun rfl
      cases hlast
      exact .inr ⟨left, List.concat_eq_append, hcommands⟩
  · rintro (⟨rfl, rfl, rfl⟩ | ⟨left, rfl, rfl⟩)
    · rfl
    · simp

/-! ## What a command files and forgets -/

/-- The command acquired the key fresh and got the allocation. -/
def Command.Files (s : Session) (c : Command) (p : PoolId) (key : PoolKey) (A : AllocationId) :
    Prop :=
  ∃ answer, (s.step c).1.outcome = .ok answer ∧ (p, key, A) ∈ c.filings s answer (s.step c).2

/-- The command released the key, or cleared its pool. -/
def Command.Forgets (s : Session) (c : Command) (p : PoolId) (key : PoolKey) : Prop :=
  (∃ answer, (s.step c).1.outcome = .ok answer) ∧ (p, key) ∈ c.forgets s

/-- A command moves a session on, whether it ends well or fails. -/
theorem Sound.moves (hs : s.Sound) (hformed : s.store.SlotsFormed) (hc : c.isDirect = false)
    (htrap : (s.step c).1.isTrap = false) :
    s.Moves (c.writes s) {entry | c.Forgets s entry.1 entry.2}
      {entry | c.Files s entry.1 entry.2.1 entry.2.2} (s.step c).2 := by
  cases hout : (s.step c).1.outcome with
  | ok answer =>
    have hforgets : {entry | c.Forgets s entry.1 entry.2} = c.forgets s := by
      simp [Command.Forgets, hout]
    have hfiles : {entry | c.Files s entry.1 entry.2.1 entry.2.2} =
        c.filings s answer (s.step c).2 := by
      simp [Command.Files, hout]
    rw [hforgets, hfiles]
    exact hs.step_moves hformed hc hout
  | error fault =>
    cases fault with
    | trap => simp [Reply.isTrap, hout] at htrap
    | error cause =>
      have hforgets : {entry : PoolId × PoolKey | c.Forgets s entry.1 entry.2} = ∅ := by
        simp [Command.Forgets, hout]
      have hfiles : {entry : PoolId × PoolKey × AllocationId |
          c.Files s entry.1 entry.2.1 entry.2.2} = ∅ := by
        simp [Command.Files, hout]
      rw [hforgets, hfiles]
      obtain ⟨store, hstore, hnext⟩ := hs.step_failed hformed hc hout
      rw [hnext]
      exact moves_of_under ⟨store, hstore.toOnward.mono (Set.empty_subset _), rfl⟩ rfl

theorem slotsFormed_empty : Store.empty.SlotsFormed := by
  refine ⟨fun hentry => ?_, fun hentry => ?_, fun hentry => ?_, fun hentry => ?_⟩ <;> cases hentry

theorem Reachable.slotsFormed (hs : s.Reachable) : s.store.SlotsFormed := by
  induction hs with
  | empty => exact slotsFormed_empty
  | step c hs hc htrap ih =>
    exact (hs.sound.moves ih hc htrap).store.slotsFormed (hs.sound.step hc htrap).balanced ih

theorem Reachable.moves (hs : s.Reachable) (hc : c.isDirect = false)
    (htrap : (s.step c).1.isTrap = false) :
    s.Moves (c.writes s) {entry | c.Forgets s entry.1 entry.2}
      {entry | c.Files s entry.1 entry.2.1 entry.2.2} (s.step c).2 :=
  hs.sound.moves hs.slotsFormed hc htrap

/-! ## Live keys -/

/-- The pool retains what it files, or a named buffer or array is a handle to the
    allocation. -/
def Keeps (s : Session) (p : PoolId) (A : AllocationId) : Prop :=
  Pool.retainsOf p s.store = true ∨ A ∈ s.inHands

/-- After these commands the key of the pool is live: one of them acquired it fresh and got
    the allocation, none since then forgot it, and the allocation was kept ever since. -/
def Live (commands : List Command) (p : PoolId) (key : PoolKey) (A : AllocationId) : Prop :=
  ∃ before c since, commands = before ++ c :: since ∧ c.Files (empty.after before) p key A ∧
    (∀ passed left, since = passed ++ left → (empty.after (before ++ c :: passed)).Keeps p A) ∧
    ∀ passed d left, since = passed ++ d :: left →
      ¬d.Forgets (empty.after (before ++ c :: passed)) p key

theorem not_live_nil : ¬Live [] p key A := by
  rintro ⟨before, c, since, hrun, -⟩
  simp at hrun

theorem live_concat :
    Live (commands ++ [c]) p key A ↔
      (empty.after (commands ++ [c])).Keeps p A ∧
        (c.Files (empty.after commands) p key A ∨
          Live commands p key A ∧ ¬c.Forgets (empty.after commands) p key) := by
  constructor
  · rintro ⟨before, d, since, hrun, hfiles, hkept, hnot⟩
    rcases concat_eq_append_cons.mp hrun with ⟨rfl, rfl, rfl⟩ | ⟨since, rfl, rfl⟩
    · exact ⟨hkept [] [] rfl, .inl hfiles⟩
    · refine ⟨?_, .inr ⟨⟨before, d, since, rfl, hfiles, fun passed left hsplit => ?_,
        fun passed e left hsplit => ?_⟩, hnot since c [] rfl⟩⟩
      · simpa using hkept (since ++ [c]) [] (List.append_nil _).symm
      · exact hkept passed (left ++ [c]) (by simp [hsplit])
      · exact hnot passed e (left ++ [c]) (by simp [hsplit])
  · rintro ⟨hkept, hfiles | ⟨⟨before, d, since, rfl, hfiles, hkept', hnot⟩, hlast⟩⟩
    · refine ⟨commands, c, [], rfl, hfiles, fun passed left hsplit => ?_,
        fun passed e left hsplit => ?_⟩
      · obtain ⟨rfl, -⟩ := List.nil_eq_append_iff.mp hsplit
        exact hkept
      · simp at hsplit
    · refine ⟨before, d, since ++ [c], by simp, hfiles, fun passed left hsplit => ?_,
        fun passed e left hsplit => ?_⟩
      · cases left with
        | nil =>
          rw [List.append_nil] at hsplit
          rw [← hsplit]
          simpa using hkept
        | cons e left =>
          rcases concat_eq_append_cons.mp hsplit with ⟨rfl, -⟩ | ⟨left, -, hsince⟩
          · exact hkept' since [] (List.append_nil _).symm
          · exact hkept' passed (e :: left) hsince
      · rcases concat_eq_append_cons.mp hsplit with ⟨rfl, rfl, -⟩ | ⟨left, -, hsince⟩
        · exact hlast
        · exact hnot passed e left hsince

/-! ## What pools show -/

/-- A pool that a named object leads to is in use. -/
theorem Sound.isOpen (hs : s.Sound) (hp : p ∈ s.livePools) : s.store.Open p := by
  intro q hq
  have hpos := hs.poolHandles_pos (mem_pools_of_livePools hp)
  rwa [Store.poolHandles_eq hq] at hpos

/-- An allocation in a slot has a handle if and only if it is kept. -/
theorem Sound.keeps_iff (hs : s.Sound) (hformed : s.store.SlotsFormed) {slot : Slot}
    (hslot : (key, slot) ∈ s.store.slots p) :
    s.Keeps p slot.allocation ↔
      Pool.retainsOf p s.store = true ∨ 0 < s.store.handles slot.allocation := by
  refine or_congr_right' fun hretains => ⟨fun hhands => ?_, fun hpos => ?_⟩
  · exact hs.balanced.handles_pos (mem_handles_of_inHands hhands)
  rw [hs.balanced.handles, Multiset.count_pos, Multiset.mem_add] at hpos
  rcases hpos with hheld | hretained
  · exact mem_inHands_of_handles hheld
  -- the slot would be the handle, in a pool that retains
  obtain ⟨pool, hpool, hretained⟩ := Store.mem_retained.mp hretained
  obtain ⟨entry, hentry, hentry'⟩ := mem_retainedIn.mp hretained
  obtain ⟨p', hp'⟩ := List.mem_iff_getElem?.mp hpool
  rw [← Store.slots_eq hp'] at hentry
  obtain ⟨rfl, -⟩ := hformed.apart hslot hentry (by rw [hentry']; rfl)
  have hkind := hformed.kind hentry
  simp only [hentry', Slot.of, hretains] at hkind
  cases hkind

/-- What a pool in use shows after a command. -/
theorem Reachable.live?_step (hs : s.Reachable) (hc : c.isDirect = false)
    (htrap : (s.step c).1.isTrap = false) (hopen : (s.step c).2.store.Open p) :
    Pool.live? p key (s.step c).2.store = some A ↔
      (s.step c).2.Keeps p A ∧
        (c.Files s p key A ∨ Pool.live? p key s.store = some A ∧ ¬c.Forgets s p key) := by
  have hs' : (s.step c).2.Reachable := hs.step c hc htrap
  have hiff : Pool.live? p key (s.step c).2.store = some A ↔ _ :=
    (hs.moves hc htrap).store.live?_eq_some_iff hs.sound.balanced hs'.sound.balanced
      hs.slotsFormed hopen
  constructor
  · intro hlive
    obtain ⟨slot, hlookup, -, rfl⟩ := Pool.live?_eq_some_iff.mp hlive
    obtain ⟨hheld, hbefore⟩ := hiff.mp hlive
    exact ⟨(hs'.sound.keeps_iff hs'.slotsFormed (Entries.mem_of_lookup hlookup)).mpr hheld, hbefore⟩
  · rintro ⟨hkept, hbefore⟩
    refine hiff.mpr ⟨hkept.imp_right fun hhands => ?_, hbefore⟩
    exact hs'.sound.balanced.handles_pos (mem_handles_of_inHands hhands)

theorem live?_iff_live (hclean : empty.isClean commands = true)
    (hopen : (empty.after commands).store.Open p) :
    Pool.live? p key (empty.after commands).store = some A ↔ Live commands p key A := by
  induction commands using List.reverseRecOn with
  | nil => exact iff_of_false nofun not_live_nil
  | append_singleton commands c ih =>
    obtain ⟨hclean, hc, htrap⟩ := isClean_concat.mp hclean
    have hs : (empty.after commands).Reachable := Reachable.empty.after hclean
    rw [after_concat] at hopen ⊢
    rw [live_concat, after_concat, ← ih hclean ((hs.moves hc htrap).store.isOpen hopen)]
    exact hs.live?_step hc htrap hopen

end DeviceMemory.Session
