-- SUMMARY: What the names of a session hold, and when a session is sound: its store agrees with its names.
import DeviceMemory.Session.Step
import DeviceMemory.Proofs.Array.Balance

/-!
# Sound sessions

The objects that a session has names for are the users of its store. A session
is `Sound` if its names are distinct and the store is balanced with what the
named objects hold, so that every handle has a name that leads to it. Giving a
name and taking one away keep this if what the object holds comes with it.

A turn changes names at its end only. `During s₀ h` describes the states on the
way there: the names are those of `s₀`, and the users of the store hold `h`.
-/

namespace DeviceMemory

/-! ## Tables of names -/

namespace Names

variable {α : Type} {names : Names α} {name : String} {a : α}

/-- No two objects of the table have the same name. -/
def Distinct (names : Names α) : Prop := (names.map Prod.fst).Nodup

/-- What the objects of a table hold. -/
def holdings (held : α → Holdings) (names : Names α) : Holdings :=
  (names.map fun entry => held entry.2).sum

theorem Distinct.erase (hnames : names.Distinct) (name : String) : (names.erase name).Distinct :=
  Entries.nodup_filter _ hnames

theorem Distinct.put (hnames : names.Distinct) (name : String) (a : α) :
    (names.put name a).Distinct :=
  Entries.nodup_concat (hnames.erase name) (Entries.lookup_filter name names)

theorem holdings_put (held : α → Holdings) (name : String) (a : α) (names : Names α) :
    (names.put name a).holdings held = (names.erase name).holdings held + held a := by
  simp [holdings, Names.put]

theorem lookup_put_of_ne {other : String} (hne : other ≠ name) (a : α) (names : Names α) :
    (names.put name a).lookup other = names.lookup other := by
  have hnone : List.lookup other [(name, a)] = none := by simpa using hne
  rw [put, List.lookup_append, hnone, Option.or_none, erase, Entries.lookup_filter_of_ne hne]

/-- An erased name leaves what its object held. -/
theorem Distinct.holdings_eq (hnames : names.Distinct) (held : α → Holdings) (name : String) :
    names.holdings held =
      (names.erase name).holdings held + (names.lookup name).elim 0 held := by
  cases hlookup : names.lookup name with
  | none =>
    rw [Names.erase, Entries.filter_of_lookup_eq_none hlookup, Option.elim_none, add_zero]
  | some a =>
    rw [Option.elim_some, add_comm]
    exact Entries.sum_map_filter _ hnames hlookup

end Names

/-- An object that may be there is dropped, or nothing is. -/
theorem Session.dropOld_balanced {α : Type} {drop : α → Store → Store} {held : α → Holdings}
    {h : Holdings} {s : Store} {old : Option α}
    (hdrop : ∀ a s, s.Balanced (h + held a) → (drop a s).Balanced h)
    (hs : s.Balanced (h + old.elim 0 held)) : (dropOld drop old s).Balanced h := by
  cases old with
  | some a => exact hdrop a s hs
  | none =>
    rw [Option.elim_none, add_zero] at hs
    exact hs

/-- What had a name is dropped before its name is erased. -/
theorem Session.dropOld_erase {α : Type} {drop : α → Store → Store} {held : α → Holdings}
    {h : Holdings} {s : Store} {names : Names α} (hnames : names.Distinct) (name : String)
    (hdrop : ∀ {h a s}, s.Balanced (h + held a) → (drop a s).Balanced h)
    (hs : s.Balanced (h + names.holdings held)) :
    (dropOld drop (names.lookup name) s).Balanced (h + (names.erase name).holdings held) := by
  rw [hnames.holdings_eq held name, ← add_assoc] at hs
  exact dropOld_balanced (fun _ _ => hdrop) hs

/-- What had a name is dropped before something else gets it. -/
theorem Session.dropOld_put {α : Type} {drop : α → Store → Store} {held : α → Holdings}
    {h : Holdings} {s : Store} {names : Names α} {a : α} (hnames : names.Distinct) (name : String)
    (hdrop : ∀ {h a s}, s.Balanced (h + held a) → (drop a s).Balanced h)
    (hs : s.Balanced (h + names.holdings held + held a)) :
    (dropOld drop (names.lookup name) s).Balanced (h + (names.put name a).holdings held) := by
  rw [Names.holdings_put, ← add_assoc, add_right_comm]
  rw [add_right_comm] at hs
  exact dropOld_erase hnames name hdrop hs

/-! ## Sessions -/

/-- What a buffer holds. -/
def Buffer.holdings (b : Buffer) : Holdings := .handle b.allocation

/-- What an array of any type holds. -/
def AnyArray.holdings (a : AnyArray) : Holdings := a.array.holdings

namespace Session

/-- What the named objects of a session hold. -/
def holdings (s : Session) : Holdings :=
  s.buffers.holdings Buffer.holdings + s.pools.holdings .pool +
    s.contexts.holdings Context.holdings + s.arrays.holdings AnyArray.holdings

/-- No two objects of one kind have the same name. -/
structure Distinct (s : Session) : Prop where
  buffers : s.buffers.Distinct
  pools : s.pools.Distinct
  contexts : s.contexts.Distinct
  arrays : s.arrays.Distinct

/-- The named objects of a session are all the users of its store. -/
structure Sound (s : Session) : Prop where
  distinct : s.Distinct
  balanced : s.store.Balanced s.holdings

/-- The names are those of `s₀`, and the users of the store hold `h`. -/
def During (s₀ : Session) (h : Holdings) (s : Session) : Prop :=
  ∃ store : Store, store.Balanced h ∧ s = { s₀ with store := store }

variable {s₀ s : Session} {h : Holdings}

theorem distinct_empty : empty.Distinct :=
  ⟨List.nodup_nil, List.nodup_nil, List.nodup_nil, List.nodup_nil⟩

theorem sound_empty : empty.Sound := by
  refine ⟨distinct_empty, ?_⟩
  have hzero : empty.holdings = 0 := by simp [holdings, empty, Names.holdings]
  rw [hzero]
  exact Store.balanced_empty

theorem Sound.during (hs : s.Sound) : During s s.holdings s := ⟨s.store, hs.balanced, rfl⟩

theorem During.sound (hs : During s₀ s₀.holdings s) (hs₀ : s₀.Distinct) : s.Sound := by
  obtain ⟨store, hbalanced, rfl⟩ := hs
  exact ⟨⟨hs₀.buffers, hs₀.pools, hs₀.contexts, hs₀.arrays⟩, hbalanced⟩

/-! ## One table beside the others -/

/-- What all named objects but the buffers hold. -/
def besideBuffers (s : Session) : Holdings :=
  s.pools.holdings .pool + s.contexts.holdings Context.holdings +
    s.arrays.holdings AnyArray.holdings

/-- What all named objects but the pools hold. -/
def besidePools (s : Session) : Holdings :=
  s.buffers.holdings Buffer.holdings + s.contexts.holdings Context.holdings +
    s.arrays.holdings AnyArray.holdings

/-- What all named objects but the contexts hold. -/
def besideContexts (s : Session) : Holdings :=
  s.buffers.holdings Buffer.holdings + s.pools.holdings .pool +
    s.arrays.holdings AnyArray.holdings

/-- What all named objects but the arrays hold. -/
def besideArrays (s : Session) : Holdings :=
  s.buffers.holdings Buffer.holdings + s.pools.holdings .pool +
    s.contexts.holdings Context.holdings

theorem holdings_buffers (s : Session) :
    s.holdings = s.besideBuffers + s.buffers.holdings Buffer.holdings := by
  simp only [holdings, besideBuffers]
  abel

theorem holdings_pools (s : Session) : s.holdings = s.besidePools + s.pools.holdings .pool := by
  simp only [holdings, besidePools]
  abel

theorem holdings_contexts (s : Session) :
    s.holdings = s.besideContexts + s.contexts.holdings Context.holdings := by
  simp only [holdings, besideContexts]
  abel

theorem holdings_arrays (s : Session) :
    s.holdings = s.besideArrays + s.arrays.holdings AnyArray.holdings := rfl

/-- What all named objects but one context hold. -/
def besideContext (id : String) (s : Session) : Holdings :=
  s.besideContexts + (s.contexts.erase id).holdings Context.holdings

theorem holdings_context {id : String} {c : Context} (hs₀ : s₀.Distinct)
    (hc : s₀.contexts.lookup id = some c) : s₀.holdings = s₀.besideContext id + c.holdings := by
  rw [holdings_contexts, hs₀.contexts.holdings_eq Context.holdings id, hc, ← add_assoc]
  rfl

/-- What all named objects but one array hold. -/
def besideArray (id : String) (s : Session) : Holdings :=
  s.besideArrays + (s.arrays.erase id).holdings AnyArray.holdings

theorem holdings_array {id : String} {a : AnyArray} (hs₀ : s₀.Distinct)
    (ha : s₀.arrays.lookup id = some a) : s₀.holdings = s₀.besideArray id + a.holdings := by
  rw [holdings_arrays, hs₀.arrays.holdings_eq AnyArray.holdings id, ha, ← add_assoc]
  rfl

/-! ## What a named object holds -/

theorem mem_handles_of_buffer {name : String} {b : Buffer} (hs₀ : s₀.Distinct)
    (hb : s₀.buffers.lookup name = some b) : b.allocation ∈ s₀.holdings.handles := by
  rw [holdings_buffers, hs₀.buffers.holdings_eq Buffer.holdings name, hb]
  simp [Buffer.holdings]

theorem mem_pools_of_pool {name : String} {p : PoolId} (hs₀ : s₀.Distinct)
    (hp : s₀.pools.lookup name = some p) : p ∈ s₀.holdings.pools := by
  rw [holdings_pools, hs₀.pools.holdings_eq .pool name, hp]
  simp

theorem mem_pools_of_context {name : String} {c : Context} (hs₀ : s₀.Distinct)
    (hc : s₀.contexts.lookup name = some c) : c.pool ∈ s₀.holdings.pools := by
  rw [holdings_context hs₀ hc]
  simp [Context.holdings]

theorem heldIn_of_array {name : String} {a : AnyArray} (hs₀ : s₀.Distinct)
    (ha : s₀.arrays.lookup name = some a) : a.array.HeldIn s₀.holdings := by
  rw [holdings_array hs₀ ha]
  exact a.array.heldIn_holdings _

theorem mem_pools_of_array {name : String} {a : AnyArray} {p : PoolId} (hs₀ : s₀.Distinct)
    (ha : s₀.arrays.lookup name = some a) (hp : a.array.pool = some p) :
    p ∈ s₀.holdings.pools := by
  rw [holdings_array hs₀ ha]
  exact Multiset.mem_add.mpr (.inr (BlockArray.mem_pools_holdings.mpr hp))

/-- An array seen at its type has the memory that it has. -/
theorem heldIn_of_as? {t : ScalarType} {e : ElementShape} {a : AnyArray} {b : BlockArray t e}
    (hb : a.as? t e = some b) (ha : a.array.HeldIn h) : b.HeldIn h := by
  obtain ⟨t', e', array⟩ := a
  simp only [AnyArray.as?] at hb
  split at hb
  next htype =>
    obtain ⟨rfl, rfl⟩ := htype
    cases hb
    exact ha
  next => cases hb

theorem heldIn_of_ofType? {t : ScalarType} {a : AnyArray}
    {b : (e : ElementShape) × BlockArray t e} (hb : a.ofType? t = some b)
    (ha : a.array.HeldIn h) : b.2.HeldIn h := by
  obtain ⟨t', e', array⟩ := a
  simp only [AnyArray.ofType?] at hb
  split at hb
  next htype =>
    subst htype
    cases hb
    exact ha
  next => cases hb

end Session

end DeviceMemory
