-- SUMMARY: A map of buckets represents the stacks of a recycling layer, and every run over it is a run of the layer.
import DeviceMemory.Allocator.Buckets
import DeviceMemory.Proofs.Allocator.Shelves

/-!
# Buckets and stacks

The blocks parked in a map of buckets are those that the recycling layer keeps in one list
(`Represents`): each bucket is the stack of its size, upside down. Taking and parking a block
keep it so, and the blocks of all buckets, in whatever order the map is drained, are a
permutation of the list. So the layer over the map does what the recycling layer does that
drains in the same order (`Client.after_bucketed`), whether a bucket is missing or there and
empty.
-/

namespace DeviceMemory

variable {σ : Type}

namespace Buckets

variable {cache : Buckets} {parked : List Block} {size : Nat} {b : Block}

@[simp] theorem bucket_insert_self (cache : Buckets) (size : Nat) (blocks : List Block) :
    bucket (cache.insert size blocks) size = blocks := by
  rw [bucket, AList.lookup_insert, Option.getD_some]

theorem bucket_insert_of_ne {size' : Nat} (h : size' ≠ size) (blocks : List Block) :
    bucket (cache.insert size blocks) size' = cache.bucket size' := by
  rw [bucket, AList.lookup_insert_ne h, bucket]

@[simp] theorem bucket_erase_self (cache : Buckets) (size : Nat) :
    bucket (cache.erase size) size = [] := by
  rw [bucket, AList.lookup_erase, Option.getD_none]

theorem bucket_erase_of_ne {size' : Nat} (h : size' ≠ size) :
    bucket (cache.erase size) size' = cache.bucket size' := by
  rw [bucket, AList.lookup_erase_ne h, bucket]

/-- Each bucket is the stack of its size, the last block at its end. -/
def Represents (cache : Buckets) (parked : List Block) : Prop :=
  ∀ size, cache.bucket size = (Parked.ofSize size parked).reverse

theorem represents_empty : Represents ∅ [] := fun _ => rfl

/-- What becomes of a bucket when its last block goes: it is shortened or removed. -/
theorem bucket_shortened (cache : Buckets) (size : Nat) (blocks : List Block) (size' : Nat) :
    bucket (if blocks = [] then cache.erase size else cache.insert size blocks) size' =
      if size' = size then blocks else cache.bucket size' := by
  by_cases hsize : size' = size
  · subst hsize
    rw [if_pos rfl]
    by_cases hblocks : blocks = []
    · rw [if_pos hblocks, bucket_erase_self, hblocks]
    · rw [if_neg hblocks, bucket_insert_self]
  · rw [if_neg hsize]
    by_cases hblocks : blocks = []
    · rw [if_pos hblocks, bucket_erase_of_ne hsize]
    · rw [if_neg hblocks, bucket_insert_of_ne hsize]

theorem take_of_lookup {blocks : List Block} (h : cache.lookup size = some blocks) :
    cache.take size = (blocks.getLast?,
      if blocks.dropLast = [] then cache.erase size else cache.insert size blocks.dropLast) := by
  simp only [take, h]

namespace Represents

theorem take_eq_none (h : Represents cache parked) (hnone : Parked.take? size parked = none) :
    (cache.take size).1 = none ∧ Represents (cache.take size).2 parked := by
  have hbucket : cache.bucket size = [] := by
    rw [h, Parked.take?_eq_none_iff.mp hnone, List.reverse_nil]
  rcases hlookup : cache.lookup size with _ | blocks
  · rw [take, hlookup]
    exact ⟨rfl, h⟩
  · -- the bucket is there and empty
    rw [bucket, hlookup, Option.getD_some] at hbucket
    subst hbucket
    rw [take_of_lookup hlookup]
    refine ⟨rfl, fun size' => ?_⟩
    rw [bucket_shortened, ← h]
    split
    next hsize => rw [hsize, bucket, hlookup, Option.getD_some, List.dropLast_nil]
    next => rfl

theorem take_eq_some (h : Represents cache parked) {others : List Block}
    (htake : Parked.take? size parked = some (b, others)) :
    (cache.take size).1 = some b ∧ Represents (cache.take size).2 others := by
  have hbucket : cache.bucket size = (Parked.ofSize size others).reverse ++ [b] := by
    rw [h, Parked.ofSize_of_take? htake, List.reverse_cons]
  rcases hlookup : cache.lookup size with _ | blocks
  · rw [bucket, hlookup, Option.getD_none] at hbucket
    exact absurd hbucket.symm (List.append_ne_nil_of_right_ne_nil _ (List.cons_ne_nil _ _))
  · rw [bucket, hlookup, Option.getD_some] at hbucket
    subst hbucket
    rw [take_of_lookup hlookup]
    refine ⟨List.getLast?_concat .., fun size' => ?_⟩
    rw [List.dropLast_concat, bucket_shortened]
    split
    next hsize => rw [hsize]
    next hsize => rw [h, Parked.ofSize_of_take?_of_ne htake hsize]

theorem length_bucket (h : Represents cache parked) (size : Nat) :
    (cache.bucket size).length = (Parked.ofSize size parked).length := by
  rw [h, List.length_reverse]

theorem park_of_lt (h : Represents cache parked) {capacity : Nat}
    (hroom : (Parked.ofSize b.size parked).length < capacity) :
    (cache.park capacity b).1 = none ∧ Represents (cache.park capacity b).2 (b :: parked) := by
  rw [park, if_pos (h.length_bucket b.size ▸ hroom)]
  refine ⟨rfl, fun size => ?_⟩
  by_cases hsize : size = b.size
  · subst hsize
    rw [bucket_insert_self, Parked.ofSize_cons_self, List.reverse_cons, h]
  · rw [bucket_insert_of_ne hsize, Parked.ofSize_cons_of_ne (Ne.symm hsize), h]

/-- A block that finds no room leaves a bucket behind, which may be empty. -/
theorem park_of_not_lt (h : Represents cache parked) {capacity : Nat}
    (hfull : ¬(Parked.ofSize b.size parked).length < capacity) :
    (cache.park capacity b).1 = some b ∧ Represents (cache.park capacity b).2 parked := by
  rw [park, if_neg (h.length_bucket b.size ▸ hfull)]
  refine ⟨rfl, fun size => ?_⟩
  by_cases hsize : size = b.size
  · subst hsize
    rw [bucket_insert_self, h]
  · rw [bucket_insert_of_ne hsize, h]

/-- Without capacity, all that a block leaves behind is an empty bucket. -/
example (b : Block) : (park ∅ 0 b).2.entries = [⟨b.size, []⟩] := rfl

end Represents

/-! ## All buckets -/

/-- Buckets of different sizes that hold the stacks of all the sizes there are hold all blocks. -/
theorem contents_perm {entries : List ((_ : Nat) × List Block)} (hkeys : entries.NodupKeys)
    {parked : List Block}
    (hentries : ∀ entry ∈ entries, entry.2 = (Parked.ofSize entry.1 parked).reverse)
    (hsizes : ∀ b ∈ parked, b.size ∈ entries.keys) : (contents entries).Perm parked := by
  induction entries generalizing parked with
  | nil =>
    have hnone : parked = [] :=
      List.eq_nil_iff_forall_not_mem.mpr fun b hb => List.not_mem_nil (hsizes b hb)
    rw [hnone, contents, List.flatMap_nil]
  | cons entry rest ih =>
    rw [List.nodupKeys_cons] at hkeys
    let others := parked.filter fun b => !decide (b.size = entry.1)
    have hrest : (contents rest).Perm others := by
      refine ih hkeys.2 (fun other hother => ?_) (fun b hb => ?_)
      · have hne : other.1 ≠ entry.1 :=
          fun heq => hkeys.1 (heq ▸ List.mem_keys_of_mem hother)
        rw [hentries other (List.mem_cons_of_mem _ hother)]
        congr 1
        rw [Parked.ofSize, Parked.ofSize, List.filter_filter]
        refine List.filter_congr fun b _ => ?_
        by_cases hsize : b.size = other.1 <;> simp [hsize, hne]
      · obtain ⟨hparked, hsize⟩ := List.mem_filter.mp hb
        rcases List.mem_cons.mp (hsizes b hparked) with heq | hmem
        · simp [heq] at hsize
        · exact hmem
    have hfirst : entry.2.Perm (Parked.ofSize entry.1 parked) :=
      hentries entry List.mem_cons_self ▸ List.reverse_perm _
    exact (hfirst.append hrest).trans (List.filter_append_perm _ parked)

namespace Represents

theorem entry_eq (h : Represents cache parked) {entry : (_ : Nat) × List Block}
    (hentry : entry ∈ cache.entries) : entry.2 = (Parked.ofSize entry.1 parked).reverse := by
  rw [← h, bucket, AList.mem_lookup_iff.mpr hentry, Option.getD_some]

theorem contents_perm (h : Represents cache parked) {entries : List ((_ : Nat) × List Block)}
    (hperm : entries.Perm cache.entries) : (contents entries).Perm parked := by
  have hcontents : (contents entries).Perm (contents cache.entries) := by
    rw [contents, contents]
    exact hperm.flatMap_right _
  refine hcontents.trans
    (Buckets.contents_perm cache.nodupKeys (fun entry => h.entry_eq) fun b hb => ?_)
  by_contra hkey
  have hbucket : cache.bucket b.size = [] := by
    rw [bucket, AList.lookup_eq_none.mpr hkey, Option.getD_none]
  rw [h, List.reverse_eq_nil_iff] at hbucket
  exact List.not_mem_nil (hbucket ▸ Parked.mem_ofSize.mpr ⟨hb, rfl⟩)

/-- The map shows as many blocks and bytes as are parked. -/
theorem counts (h : Represents cache parked) :
    (cache.entries.map fun entry => entry.2.length).sum = parked.length ∧
    (cache.entries.map fun entry => entry.1 * entry.2.length).sum =
      (parked.map Block.size).sum := by
  have hperm := h.contents_perm (List.Perm.refl cache.entries)
  have hbytes : ∀ entry ∈ cache.entries,
      entry.1 * entry.2.length = (entry.2.map Block.size).sum := by
    intro entry hentry
    have hsizes : ∀ b ∈ entry.2, b.size = entry.1 := by
      rw [h.entry_eq hentry]
      exact fun b hb => (Parked.mem_ofSize.mp (List.mem_reverse.mp hb)).2
    rw [List.map_congr_left hsizes, List.map_const', List.sum_replicate_nat, Nat.mul_comm]
  constructor
  · rw [← hperm.length_eq, contents, List.length_flatMap]
  · rw [← (hperm.map Block.size).sum_eq, contents, List.map_flatMap, List.flatMap_def,
      List.sum_flatten, List.map_map, List.map_congr_left hbytes]
    rfl

end Represents

end Buckets

/-! ## The layer -/

/-- Where these blocks are parked, they go back in the order of this list. -/
def DrainOrder.listing {parked blocks : List Block} (h : blocks.Perm parked) : DrainOrder σ where
  blocks s := if s.parked = parked then blocks else s.parked
  perm s := by
    split
    next hparked => exact hparked ▸ h
    next => exact List.Perm.refl s.parked

theorem DrainOrder.blocks_listing {parked blocks : List Block} (h : blocks.Perm parked)
    (state : σ) : (DrainOrder.listing h).blocks ⟨parked, state⟩ = blocks :=
  if_pos rfl

/-- The map holds what is parked, over the same state. -/
structure Bucketed.Shows (t : Bucketed σ) (s : Recycling σ) : Prop where
  represents : t.cache.Represents s.parked
  inner : t.inner = s.inner

/-- Both have ended or both have trapped, in states that are related. -/
inductive Return.Agree {τ : Type} (R : τ → σ → Prop) : Return τ → Return σ → Prop
  | done {t : τ} {s : σ} (h : R t s) : Agree R (.done t) (.done s)
  | trapped {t : τ} {s : σ} (h : R t s) : Agree R (.trapped t) (.trapped s)

namespace Allocator

variable {a : Allocator σ} {t : Bucketed σ} {s : Recycling σ}

/-- The buckets are drained in some order of the blocks that are parked. -/
theorem agree_drain (order : BucketOrder σ) (h : t.Shows s) :
    ∃ order', (a.drainBuckets order t).Agree Bucketed.Shows (a.drainBy order' s) := by
  have hperm := h.represents.contents_perm (order.perm t)
  refine ⟨.listing hperm, ?_⟩
  rw [drainBuckets, drainBy, DrainOrder.blocks_listing hperm s.inner, h.inner]
  rcases (a.freeAll (Buckets.contents (order.entries t)) s.inner).bind a.trim with state | state
  · exact .done ⟨Buckets.represents_empty, rfl⟩
  · exact .trapped ⟨Buckets.represents_empty, rfl⟩

/-- A request gets the same answer over the map. -/
theorem shows_alloc (order : BucketOrder σ) (capacity : Nat) (h : t.Shows s) (size : Nat)
    (zeroed : Bool) :
    ∃ order',
      ((a.bucketed order capacity).alloc size zeroed t).1 =
        ((a.recyclingBy order' capacity).alloc size zeroed s).1 ∧
      ((a.bucketed order capacity).alloc size zeroed t).2.Shows
        ((a.recyclingBy order' capacity).alloc size zeroed s).2 := by
  rcases htaken : t.cache.take size with ⟨found, cache⟩
  rcases htake : Parked.take? size s.parked with _ | ⟨b, others⟩
  · obtain ⟨rfl, hcache⟩ : found = none ∧ cache.Represents s.parked := by
      have htaken' := h.represents.take_eq_none htake
      rwa [htaken] at htaken'
    rcases halloc : a.alloc size zeroed s.inner with ⟨(first | _) | block, state⟩
    · -- the first request is refused: the map is drained in some order
      have hshows : Bucketed.Shows ⟨cache, state⟩ ⟨s.parked, state⟩ := ⟨hcache, rfl⟩
      obtain ⟨order', hdrain⟩ := agree_drain order hshows
      refine ⟨order', ?_⟩
      simp only [bucketed, recyclingBy, allocBelowBy, htaken, htake, h.inner, halloc]
      rcases hbuckets : a.drainBuckets order ⟨cache, state⟩ with drained | drained <;>
        rcases hlist : a.drainBy order' ⟨s.parked, state⟩ with drained' | drained' <;>
        rw [hbuckets, hlist] at hdrain <;> cases hdrain
      case done.done hdrained =>
        simp only [hdrained.inner]
        rcases a.alloc size zeroed drained'.inner with ⟨(second | _) | block, state'⟩ <;>
          exact ⟨rfl, hdrained.represents, rfl⟩
      case trapped.trapped hdrained => exact ⟨rfl, hdrained⟩
    all_goals
      refine ⟨.oldestFirst, ?_⟩
      simp only [bucketed, recyclingBy, allocBelowBy, htaken, htake, h.inner, halloc]
      exact ⟨trivial, hcache, rfl⟩
  · obtain ⟨rfl, hcache⟩ : found = some b ∧ cache.Represents others := by
      have htaken' := h.represents.take_eq_some htake
      rwa [htaken] at htaken'
    refine ⟨.oldestFirst, ?_⟩
    simp only [bucketed, recyclingBy, htaken, htake]
    exact ⟨trivial, hcache, h.inner⟩

theorem agree_free (order : BucketOrder σ) (order' : DrainOrder σ) (capacity : Nat)
    (h : t.Shows s) (b : Block) :
    ((a.bucketed order capacity).free b t).Agree Bucketed.Shows
      ((a.recyclingBy order' capacity).free b s) := by
  rcases hpark : t.cache.park capacity b with ⟨overflow, cache⟩
  simp only [bucketed, recyclingBy, recycling, hpark]
  by_cases hroom : (Parked.ofSize b.size s.parked).length < capacity
  · obtain ⟨rfl, hcache⟩ : overflow = none ∧ cache.Represents (b :: s.parked) := by
      have hpark' := h.represents.park_of_lt hroom
      rwa [hpark] at hpark'
    rw [if_pos hroom]
    exact .done ⟨hcache, h.inner⟩
  · obtain ⟨rfl, hcache⟩ : overflow = some b ∧ cache.Represents s.parked := by
      have hpark' := h.represents.park_of_not_lt hroom
      rwa [hpark] at hpark'
    rw [if_neg hroom]
    simp only [h.inner]
    rcases a.free b s.inner with state | state
    · exact .done ⟨hcache, rfl⟩
    · exact .trapped ⟨hcache, rfl⟩

theorem usage_bucketed (order : BucketOrder σ) (order' : DrainOrder σ) (capacity : Nat)
    (h : t.Shows s) :
    (a.bucketed order capacity).usage t = (a.recyclingBy order' capacity).usage s := by
  obtain ⟨hblocks, hbytes⟩ := h.represents.counts
  simp only [bucketed, recyclingBy, recycling, ← List.sum_eq_foldr, h.inner, hblocks, hbytes]

end Allocator

/-! ## Runs -/

namespace Client

open Allocator

variable {ι : Type} {capacity : Nat} {c : Client (Bucketed σ)} {d : Client (Recycling σ)}

/-- The same blocks are held, and the map holds what is parked. -/
structure Mirrors (c : Client (Bucketed σ)) (d : Client (Recycling σ)) : Prop where
  held : c.held = d.held
  state : c.state.Shows d.state

theorem mirrors_afterReturn (held : List Block) {r : Return (Bucketed σ)}
    {r' : Return (Recycling σ)} (h : r.Agree Bucketed.Shows r') :
    (afterReturn held r).1 = (afterReturn held r').1 ∧
    (afterReturn held r).2.Mirrors (afterReturn held r').2 := by
  cases h with
  | done h => exact ⟨rfl, rfl, h⟩
  | trapped h => exact ⟨rfl, rfl, h⟩

theorem step_bucketed {a : Allocator σ} (h : c.Mirrors d) (order : BucketOrder σ)
    (request : Request) :
    ∃ order',
      (c.step (a.bucketed order capacity) request).1 =
        (d.step (a.recyclingBy order' capacity) request).1 ∧
      (c.step (a.bucketed order capacity) request).2.Mirrors
        (d.step (a.recyclingBy order' capacity) request).2 := by
  cases request with
  | alloc size zeroed =>
    obtain ⟨order', hanswer, hshows⟩ := shows_alloc (a := a) order capacity h.state size zeroed
    refine ⟨order', ?_⟩
    rcases halloc : (a.bucketed order capacity).alloc size zeroed c.state with ⟨answer, t⟩
    rcases halloc' : (a.recyclingBy order' capacity).alloc size zeroed d.state with ⟨answer', s⟩
    rw [halloc, halloc'] at hanswer hshows
    simp only at hanswer
    subst hanswer
    simp only [step, halloc, halloc', h.held]
    rcases answer with (cause | _) | block <;> exact ⟨rfl, rfl, hshows⟩
  | write place offset bytes =>
    refine ⟨.oldestFirst, ?_⟩
    simp only [step, h.held]
    cases d.held[place]?.bind (·.write? offset bytes) with
    | none => exact ⟨rfl, h⟩
    | some block => exact ⟨rfl, rfl, h.state⟩
  | free place =>
    refine ⟨.oldestFirst, ?_⟩
    rcases hb : d.held[place]? with _ | b
    · rw [step_free_none _ hb, step_free_none _ (h.held ▸ hb)]
      exact ⟨rfl, h⟩
    · rw [step_free _ hb, step_free _ (h.held ▸ hb), h.held]
      exact mirrors_afterReturn _ (agree_free order .oldestFirst capacity h.state b)
  | trim =>
    obtain ⟨order', hdrain⟩ := agree_drain (a := a) order h.state
    refine ⟨order', ?_⟩
    rw [step_trim, step_trim, h.held]
    exact mirrors_afterReturn _ hdrain

/-- The layer over the map of buckets. -/
def bucketCache (inner : ι → Allocator σ) (capacity : Nat) (k : ι × BucketOrder σ) :
    Allocator (Bucketed σ) :=
  (inner k.1).bucketed k.2 capacity

/-- Every run over a map of buckets is a run over the list, with the same requests and answers. -/
theorem after_bucketed (inner : ι → Allocator σ) (h : c.Mirrors d)
    (rounds : List ((ι × BucketOrder σ) × Request)) :
    ∃ rounds' : List ((ι × DrainOrder σ) × Request),
      rounds'.map (fun round => (round.1.1, round.2)) =
        rounds.map (fun round => (round.1.1, round.2)) ∧
      c.replies (bucketCache inner capacity) rounds =
        d.replies (cache inner capacity) rounds' ∧
      (c.after (bucketCache inner capacity) rounds).Mirrors
        (d.after (cache inner capacity) rounds') := by
  induction rounds generalizing c d with
  | nil => exact ⟨[], rfl, rfl, h⟩
  | cons round rounds ih =>
    obtain ⟨⟨i, order⟩, request⟩ := round
    obtain ⟨order', hreply, hstep⟩ := step_bucketed (a := inner i) h order request
    obtain ⟨rounds', hsame, hreplies, hafter⟩ := ih hstep
    exact ⟨((i, order'), request) :: rounds', congrArg _ hsame,
      congrArg₂ List.cons hreply hreplies, hafter⟩

/-- Over any allocators, in every state of every run, a recycling layer is a stack of bounded
    height for each exact size (`Stacked`), with the bound and the sizes in the type of the
    stacks. The run may begin with blocks from elsewhere, drain in any order each time, and go
    on after traps. Every run of the layer over a map of buckets is such a run: it gets the same
    answers, leaves the same below and reports the same usage, and each of its buckets is the
    stack of its size. -/
theorem recycling_stacks (inner : ι → Allocator σ) (capacity : Nat) (start : σ)
    (foreign : List Block) :
    (∀ rounds,
      (watchedAfter inner capacity start foreign rounds).map (Recycling.map Watched.inner) =
        after (cache inner capacity) (newcomer start foreign) rounds ∧
      Stacked inner foreign (shelvesAfter inner capacity start foreign rounds)
        (watchedAfter inner capacity start foreign rounds)) ∧
    ∀ rounds, ∃ rounds' : List ((ι × DrainOrder σ) × Request),
      rounds'.map (fun round => (round.1.1, round.2)) =
        rounds.map (fun round => (round.1.1, round.2)) ∧
      replies (bucketCache inner capacity) ⟨⟨∅, start⟩, foreign⟩ rounds =
        replies (cache inner capacity) (newcomer start foreign) rounds' ∧
      let bucketed := after (bucketCache inner capacity) ⟨⟨∅, start⟩, foreign⟩ rounds
      let listed := after (cache inner capacity) (newcomer start foreign) rounds'
      bucketed.held = listed.held ∧ bucketed.state.inner = listed.state.inner ∧
      (∀ i order order', (bucketCache inner capacity (i, order)).usage bucketed.state =
        (cache inner capacity (i, order')).usage listed.state) ∧
      ∀ size, bucketed.state.cache.bucket size =
        ((shelvesAfter inner capacity start foreign rounds').stack size).reverse := by
  have hshelved := shelved_after inner capacity start foreign
  have hmap := map_watchedAfter inner capacity start foreign
  refine ⟨fun rounds => ⟨hmap rounds, (hshelved rounds).stacked⟩, fun rounds => ?_⟩
  have hstart : Mirrors ⟨⟨∅, start⟩, foreign⟩ (newcomer start foreign) :=
    ⟨rfl, Buckets.represents_empty, rfl⟩
  obtain ⟨rounds', hsame, hreplies, hheld, hshows⟩ := after_bucketed inner hstart rounds
  refine ⟨rounds', hsame, hreplies, hheld, hshows.inner,
    fun i order order' => usage_bucketed order order' capacity hshows, fun size => ?_⟩
  rw [hshows.represents, ← (hshelved rounds').stack_eq, ← hmap rounds']
  rfl

/-- Two blocks of one size come back to a layer that has room for one of them. -/
def twoReturned : List ((Unit × DrainOrder Quota) × Request) :=
  [.alloc 8 false, .alloc 8 false, .free 0, .free 0].map (Prod.mk ((), .oldestFirst))

/-- The first one is parked and handed out next. The other one has gone back below. -/
theorem recycling_stacks_twoReturned :
    let inner := fun _ : Unit => Allocator.limit 16
    let c := watchedAfter inner 1 ⟨0, 0⟩ [] twoReturned
    Call.freed c.state.inner.calls = {⟨1, 8⟩} ∧
    ∃ others,
      c.step (watchedCache inner 1 ((), .oldestFirst)) (.alloc 8 true) =
        (.granted 8, ⟨⟨others, c.state.inner⟩, c.held ++ [⟨0, List.replicate 8 0⟩]⟩) ∧
      Parked.ofSize 8 others = [] := by
  intro inner c
  have hstack : (shelvesAfter inner 1 ⟨0, 0⟩ [] twoReturned).stack 8 =
      [⟨0, List.replicate 8 0⟩] := by decide +kernel
  obtain ⟨hruns, -⟩ := recycling_stacks inner 1 ⟨0, 0⟩ []
  obtain ⟨others, hstep, -, hrest, -⟩ :=
    (hruns twoReturned).2.served ((), .oldestFirst) true hstack
  exact ⟨by decide +kernel, others, hstep, hrest⟩

end Client

end DeviceMemory
