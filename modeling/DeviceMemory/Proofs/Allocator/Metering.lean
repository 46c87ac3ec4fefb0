-- SUMMARY: What a meter shows is the history of its client's run: what is held, how much was ever held at one time, and how many requests were granted.
import DeviceMemory.Proofs.Allocator.Books
import DeviceMemory.Proofs.Allocator.Runs
import Mathlib.Data.List.Infix
import Mathlib.Order.Bounds.Basic

/-!
# Meters and histories

A meter keeps four counters and no history. Over allocators whose blocks have the size asked
for, and as long as the bytes that are held fit in a word, the counters are those of the
history of the run (`metering_exact`): its blocks and bytes held, its grants, and the
greatest number of bytes held in any of its states. The client's run over the same allocators
without the meter says what these are, and the meter makes no other difference to it.
-/

namespace DeviceMemory

/-- A request was granted. -/
def Report.isGrant : Report → Bool
  | .granted _ => true
  | _ => false

namespace Client

variable {ι σ : Type}

/-- The bytes of the blocks that the client holds. -/
def heldBytes (c : Client σ) : Nat := (c.held.map Block.size).sum

theorem total_tags_held (c : Client σ) : Tag.total (Parked.tags c.held) = c.heldBytes :=
  Parked.total_tags c.held

/-- The numbers of bytes held in the states of a run, the first and the last included. -/
def levels (a : ι → Allocator σ) (c : Client σ) (rounds : List (ι × Request)) : Set Nat :=
  {bytes | ∃ before, before <+: rounds ∧ (c.after a before).heldBytes = bytes}

section Levels

variable (a : ι → Allocator σ) (c : Client σ)

theorem levels_nil : c.levels a [] = {c.heldBytes} := by
  ext bytes
  simp only [levels, List.prefix_nil, exists_eq_left, after_nil, Set.mem_ofPred_eq,
    Set.mem_singleton_iff]
  exact eq_comm

theorem heldBytes_mem_levels (rounds : List (ι × Request)) :
    (c.after a rounds).heldBytes ∈ c.levels a rounds :=
  ⟨rounds, List.prefix_rfl, rfl⟩

theorem levels_mono {before rounds : List (ι × Request)} (h : before <+: rounds) :
    c.levels a before ⊆ c.levels a rounds := by
  rintro bytes ⟨first, hfirst, rfl⟩
  exact ⟨first, hfirst.trans h, rfl⟩

theorem levels_concat (rounds : List (ι × Request)) (round : ι × Request) :
    c.levels a (rounds ++ [round]) =
      insert (c.after a (rounds ++ [round])).heldBytes (c.levels a rounds) := by
  ext bytes
  rw [Set.mem_insert_iff]
  constructor
  · rintro ⟨before, hbefore, rfl⟩
    rcases List.prefix_concat_iff.mp hbefore with rfl | hbefore
    · exact .inl rfl
    · exact .inr ⟨before, hbefore, rfl⟩
  · rintro (rfl | hbytes)
    · exact heldBytes_mem_levels a c _
    · exact levels_mono a c (List.prefix_append ..) hbytes

end Levels

end Client

/-! ## Counters -/

/-- The counters show which blocks are held, how many requests were granted and which of the
    levels was the highest. -/
structure Meter.Tells (m : Meter) (held : Multiset Tag) (grants : Nat) (levels : Set Nat) :
    Prop where
  counts : m.Counts held
  total : m.totalAllocations = grants % Word.limit
  peak : IsGreatest levels m.peakBytes

namespace Meter.Tells

variable {m m' : Meter} {held held' : Multiset Tag} {grants : Nat} {levels : Set Nat}

/-- The peak stays where it is as long as the level falls. -/
theorem insert_of_le (h : m.Tells held grants levels) {level : Nat}
    (hle : level ≤ m.peakBytes) : m.Tells held grants (insert level levels) where
  counts := h.counts
  total := h.total
  peak := by
    have hpeak := h.peak.insert level
    rwa [max_eq_right hle] at hpeak

theorem grant (h : m.Tells held grants levels) {t : Tag}
    (hfits : m.liveBytes + t.size < Word.limit) :
    { m.count t.size with
      peakBytes := max (m.count t.size).peakBytes (m.liveBytes + t.size) : Meter }.Tells
        (t ::ₘ held) (grants + 1) (insert (Tag.total (t ::ₘ held)) levels) where
  counts := (h.counts.count hfits).withPeak _
  total := by simp only [Meter.count, Word.wrapAdd, h.total, Nat.mod_add_mod]
  peak := by
    have hlevel : m.liveBytes + t.size = Tag.total (t ::ₘ held) := by
      rw [Tag.total_cons, h.counts.bytes, Nat.add_comm]
    simp only [hlevel, max_comm (m.count t.size).peakBytes]
    exact h.peak.insert _

/-- Bytes that go back were part of an earlier level. -/
theorem free {t : Tag} (h : m.Tells (t ::ₘ held) grants levels)
    (hlevel : Tag.total (t ::ₘ held) ∈ levels) :
    (m.uncount t.size).Tells held grants (insert (Tag.total held) levels) := by
  have hle : Tag.total held ≤ m.peakBytes := by
    have hpeak := h.peak.2 hlevel
    rw [Tag.total_cons] at hpeak
    exact Nat.le_trans (Nat.le_add_left ..) hpeak
  have huncount : (m.uncount t.size).Tells held grants levels := by
    refine ⟨h.counts.uncount, ?_, ?_⟩
    · rw [Meter.totalAllocations_uncount, h.total]
    · rw [Meter.peakBytes_uncount]
      exact h.peak
  exact huncount.insert_of_le ((m.peakBytes_uncount t.size).symm ▸ hle)

theorem stay (h : m.Tells held grants levels) (hlevel : Tag.total held ∈ levels) :
    m.Tells held grants (insert (Tag.total held) levels) :=
  h.insert_of_le (h.peak.2 hlevel)

end Meter.Tells

/-! ## Runs -/

namespace Client

variable {ι σ : Type}

/-- The state under a meter, and the same blocks held. -/
def metered (c : Client σ) (m : Meter) : Client (Metered σ) := ⟨⟨m, c.state⟩, c.held⟩

section Step

variable {a : Allocator σ} {c : Client σ} {m : Meter} {grants : Nat} {levels : Set Nat}

/-- A request that does not trap ends the same under a meter, which counts it. -/
theorem step_metered (hsized : a.Sized) (h : m.Tells (Parked.tags c.held) grants levels)
    (hlevel : c.heldBytes ∈ levels) {request : Request}
    (hdone : (c.step a request).1 ≠ .trapped)
    (hfits : (c.step a request).2.heldBytes < Word.limit) :
    ∃ m', (c.metered m).step a.metered request =
        ((c.step a request).1, (c.step a request).2.metered m') ∧
      m'.Tells (Parked.tags (c.step a request).2.held)
        (grants + if (c.step a request).1.isGrant then 1 else 0)
        (insert (c.step a request).2.heldBytes levels) := by
  simp only [← total_tags_held] at hlevel hfits ⊢
  cases request with
  | alloc size zeroed =>
    rcases halloc : a.alloc size zeroed c.state with ⟨(cause | _) | block, state⟩
    · have hmetered : a.metered.alloc size zeroed ⟨m, c.state⟩ =
          (.error (.error cause), ⟨m, state⟩) := by
        simp only [Allocator.metered, halloc]
      rw [step_refused halloc]
      exact ⟨m, step_refused hmetered, h.stay hlevel⟩
    · rw [step_alloc_trapped halloc] at hdone
      exact absurd rfl hdone
    · obtain rfl : block.size = size := hsized halloc
      rw [step_granted halloc] at hfits ⊢
      simp only [Alike.tags_concat] at hfits ⊢
      have hroom : m.liveBytes + block.tag.size < Word.limit := by
        rwa [Tag.total_cons, ← h.counts.bytes, Nat.add_comm] at hfits
      have hadd : Word.add? m.liveBytes block.size = some (m.liveBytes + block.size) :=
        Word.add?_eq_some_iff.mpr ⟨hroom, rfl⟩
      have hmetered : a.metered.alloc block.size zeroed ⟨m, c.state⟩ =
          (.ok block, ⟨{ m.count block.size with
            peakBytes := max (m.count block.size).peakBytes (m.liveBytes + block.size) },
          state⟩) := by
        simp only [Allocator.metered, halloc, hadd]
      exact ⟨_, step_granted hmetered, h.grant hroom⟩
  | write place offset bytes =>
    obtain ⟨hreport, -, htags⟩ := Alike.step_write a c place offset bytes
    refine ⟨m, ?_, ?_⟩
    · simp only [step, metered]
      cases c.held[place]?.bind (·.write? offset bytes) <;> rfl
    · rw [hreport, Parked.tags, htags]
      exact h.stay hlevel
  | free place =>
    rcases hblock : c.held[place]? with _ | block
    · rw [step_free_none a hblock]
      exact ⟨m, step_free_none a.metered hblock, h.stay hlevel⟩
    · rw [step_free a hblock] at hdone ⊢
      rcases hfree : a.free block c.state with state | state
      · have hmetered : a.metered.free block ⟨m, c.state⟩ =
            .done ⟨m.uncount block.size, state⟩ := by
          simp only [Allocator.metered, hfree]
        rw [Alike.tags_eraseIdx hblock] at h hlevel
        exact ⟨_, (step_free a.metered hblock).trans (congrArg _ hmetered), h.free hlevel⟩
      · rw [hfree] at hdone
        exact absurd rfl hdone
  | trim =>
    rw [step_trim a] at hdone ⊢
    rcases htrim : a.trim c.state with state | state
    · have hmetered : a.metered.trim ⟨m, c.state⟩ = .done ⟨m, state⟩ := by
        simp only [Allocator.metered, htrim, Return.map]
      exact ⟨m, congrArg (afterReturn c.held) hmetered, h.stay hlevel⟩
    · rw [htrim] at hdone
      exact absurd rfl hdone

end Step

/-- The four counters are those of the run over the allocators without a meter. Counts are
    kept in a word, so they are exact as long as they fit in one. -/
structure Tallied (inner : ι → Allocator σ) (start : σ) (rounds : List (ι × Request))
    (u : Usage) : Prop where
  liveBuffers : u.liveBuffers = (after inner ⟨start, []⟩ rounds).held.length % Word.limit
  liveBytes : u.liveBytes = (after inner ⟨start, []⟩ rounds).heldBytes
  totalAllocations : u.totalAllocations =
    (replies inner ⟨start, []⟩ rounds).countP Report.isGrant % Word.limit
  peakBytes : IsGreatest (levels inner ⟨start, []⟩ rounds) u.peakBytes

section Runs

variable {inner : ι → Allocator σ} {start : σ} {rounds : List (ι × Request)}

theorem Tallied.of_tells {m : Meter}
    (h : m.Tells (Parked.tags (after inner ⟨start, []⟩ rounds).held)
      ((replies inner ⟨start, []⟩ rounds).countP Report.isGrant)
      (levels inner ⟨start, []⟩ rounds)) (i : ι) :
    Tallied inner start rounds
      ((inner i).metered.usage ((after inner ⟨start, []⟩ rounds).metered m).state) where
  liveBuffers := by
    have hbuffers := h.counts.buffers
    rwa [Parked.card_tags] at hbuffers
  liveBytes := h.counts.bytes.trans (total_tags_held _)
  totalAllocations := h.total
  peakBytes := h.peak

theorem after_metered (hsized : ∀ i, (inner i).Sized)
    (hdone : Report.trapped ∉ replies inner ⟨start, []⟩ rounds)
    (hfits : ∀ before, before <+: rounds →
      (after inner ⟨start, []⟩ before).heldBytes < Word.limit) :
    ∃ m, after (fun i => (inner i).metered) ⟨⟨.zero, start⟩, []⟩ rounds =
        (after inner ⟨start, []⟩ rounds).metered m ∧
      replies (fun i => (inner i).metered) ⟨⟨.zero, start⟩, []⟩ rounds =
        replies inner ⟨start, []⟩ rounds ∧
      m.Tells (Parked.tags (after inner ⟨start, []⟩ rounds).held)
        ((replies inner ⟨start, []⟩ rounds).countP Report.isGrant)
        (levels inner ⟨start, []⟩ rounds) := by
  induction rounds using List.reverseRecOn with
  | nil =>
    refine ⟨.zero, rfl, rfl, .zero, rfl, ?_⟩
    rw [levels_nil]
    exact isGreatest_singleton
  | append_singleton rounds round ih =>
    obtain ⟨hbefore, hlast⟩ := not_trapped_concat hdone
    obtain ⟨m, hafter, hreplies, htells⟩ := ih hbefore fun before hrest =>
      hfits before (hrest.trans (List.prefix_append ..))
    have hfit := hfits _ List.prefix_rfl
    rw [after_concat] at hfit
    obtain ⟨m', hstep, htells'⟩ := step_metered (hsized round.1) htells
      (heldBytes_mem_levels ..) hlast hfit
    refine ⟨m', ?_, ?_, ?_⟩
    · rw [after_concat, after_concat, hafter, hstep]
    · rw [replies_concat, replies_concat, hreplies, hafter, hstep]
    · rw [levels_concat, replies_concat, after_concat, List.countP_append]
      simpa only [List.countP_cons, List.countP_nil, Nat.zero_add] using htells'

/-- Over allocators whose blocks have the size asked for, a meter makes no difference to a run
    in which the bytes held fit in a word, and after every part of it the counters are those
    of its history: blocks and bytes held, requests granted, and the greatest number of bytes
    held in any state so far. So the peak never falls. A request that fails, in whatever way,
    leaves all of them. -/
theorem metering_exact (hsized : ∀ i, (inner i).Sized)
    (hdone : Report.trapped ∉ replies inner ⟨start, []⟩ rounds)
    (hfits : ∀ before, before <+: rounds →
      (after inner ⟨start, []⟩ before).heldBytes < Word.limit) :
    replies (fun i => (inner i).metered) ⟨⟨.zero, start⟩, []⟩ rounds =
      replies inner ⟨start, []⟩ rounds ∧
    ∀ before, before <+: rounds →
      let c := after inner ⟨start, []⟩ before
      let metered := after (fun i => (inner i).metered) ⟨⟨.zero, start⟩, []⟩ before
      metered.held = c.held ∧ metered.state.inner = c.state ∧
      (∀ i, Tallied inner start before ((inner i).metered.usage metered.state)) ∧
      (∀ first, first <+: before → ∀ i,
        ((inner i).metered.usage
          (after (fun i => (inner i).metered) ⟨⟨.zero, start⟩, []⟩ first).state).peakBytes ≤
        ((inner i).metered.usage metered.state).peakBytes) ∧
      ∀ i size zeroed fault state, (inner i).alloc size zeroed c.state = (.error fault, state) →
        (inner i).metered.alloc size zeroed metered.state =
          (.error fault, ⟨metered.state.meter, state⟩) := by
  have hruns {before : List (ι × Request)} (hbefore : before <+: rounds) :=
    after_metered hsized (not_trapped_before hbefore hdone) fun first hfirst =>
      hfits first (hfirst.trans hbefore)
  refine ⟨(hruns List.prefix_rfl).choose_spec.2.1, fun before hbefore => ?_⟩
  obtain ⟨m, hafter, -, htells⟩ := hruns hbefore
  simp only [hafter]
  refine ⟨rfl, rfl, fun i => .of_tells htells i, fun first hfirst i => ?_,
    fun i size zeroed fault state halloc => ?_⟩
  · obtain ⟨m', hafter', -, htells'⟩ := hruns (hfirst.trans hbefore)
    rw [hafter']
    exact htells.peak.2 (levels_mono _ _ hfirst htells'.peak.1)
  · simp only [Allocator.metered, metered, halloc]

/-- Two blocks of eight bytes are granted, a third one is refused, and one goes back for one of
    four. -/
def sixteenFilled : List (Unit × Request) :=
  [((), .alloc 8 false), ((), .alloc 8 false), ((), .alloc 1 true), ((), .free 0),
    ((), .alloc 4 false)]

/-- Twelve bytes are left in two blocks, of sixteen at the peak, after three grants. -/
theorem metering_exact_sixteen :
    let limited := Allocator.limit 16
    let metered := after (fun _ : Unit => limited.metered) ⟨⟨.zero, ⟨0, 0⟩⟩, []⟩ sixteenFilled
    limited.metered.usage metered.state = ⟨2, 12, 16, 3, 0, 0⟩ ∧
    Tallied (fun _ : Unit => limited) ⟨0, 0⟩ sixteenFilled
      (limited.metered.usage metered.state) := by
  have hfits : ∀ before ∈ sixteenFilled.inits,
      (after (fun _ : Unit => Allocator.limit 16) ⟨⟨0, 0⟩, []⟩ before).heldBytes < Word.limit := by
    decide
  have hdone : Report.trapped ∉
      replies (fun _ : Unit => Allocator.limit 16) ⟨⟨0, 0⟩, []⟩ sixteenFilled := by
    decide
  obtain ⟨-, hcounted⟩ := metering_exact (fun _ => (Allocator.fresh_limit 16).sized) hdone
    fun before hbefore => hfits before ((List.mem_inits _ _).mpr hbefore)
  obtain ⟨-, -, htallied, -⟩ := hcounted sixteenFilled List.prefix_rfl
  exact ⟨by decide, htallied ()⟩

end Runs

end Client

end DeviceMemory
