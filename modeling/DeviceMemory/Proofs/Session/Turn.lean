-- SUMMARY: The rules of turns: finding objects, acting on the store, giving names and taking them away.
import DeviceMemory.Proofs.Session.Holdings

/-!
# Rules of turns

A turn begins in a session `s₀` with distinct names and acts on its store under
the names of `s₀` (`triple_find`, `triple_act`, `triple_ask`). What it makes is
held beside them until a name is given. Each way to give a name, to change what
a name stands for or to take one away ends in a sound session.
-/

namespace DeviceMemory.Session

variable {α β ε : Type} {s₀ s : Session} {h : Holdings} {err : Session → Prop}

/-- The names are those of `s₀`, and `P` describes the store. -/
def Under (s₀ : Session) (P : Store → Prop) (s : Session) : Prop :=
  ∃ store : Store, P store ∧ s = { s₀ with store := store }

namespace Turn

/-! ## Results -/

section Results

variable {m : Turn α} {next : α → Turn β} {s' : Session}

theorem run_bind_of_ok {a : α} (hm : StateT.run (ExceptT.run m) s = (.ok a, s')) :
    StateT.run (ExceptT.run (m >>= next)) s = StateT.run (ExceptT.run (next a)) s' := by
  change ExceptT.bindCont next (StateT.run (ExceptT.run m) s).1 (StateT.run (ExceptT.run m) s).2 = _
  rw [hm]
  rfl

theorem run_bind_of_error {fault : Fault Failure}
    (hm : StateT.run (ExceptT.run m) s = (.error fault, s')) :
    StateT.run (ExceptT.run (m >>= next)) s = (.error fault, s') := by
  change ExceptT.bindCont next (StateT.run (ExceptT.run m) s).1 (StateT.run (ExceptT.run m) s).2 = _
  rw [hm]
  rfl

theorem run_find {table : Session → Names α} {name : String} {a : α}
    (ha : (table s).lookup name = some a) :
    StateT.run (ExceptT.run (find table name)) s = (.ok a, s) := by
  change StateT.run (ExceptT.run (required name ((table s).lookup name))) s = _
  rw [ha]
  rfl

/-- A sequence that ends with a result is made of two parts that do. -/
theorem exists_of_run_bind {b : β} (h : StateT.run (ExceptT.run (m >>= next)) s = (.ok b, s')) :
    ∃ a s₁, StateT.run (ExceptT.run m) s = (.ok a, s₁) ∧
      StateT.run (ExceptT.run (next a)) s₁ = (.ok b, s') := by
  rcases hm : StateT.run (ExceptT.run m) s with ⟨fault | a, s₁⟩
  · rw [run_bind_of_error hm] at h
    cases h
  · rw [run_bind_of_ok hm] at h
    exact ⟨a, s₁, rfl, h⟩

theorem of_run_required {name : String} {value : Option α} {a : α}
    (h : StateT.run (ExceptT.run (required name value)) s = (.ok a, s')) :
    value = some a ∧ s = s' := by
  cases value with
  | none => cases h
  | some a' =>
    cases h
    exact ⟨rfl, rfl⟩

theorem of_run_find {table : Session → Names α} {name : String} {a : α}
    (h : StateT.run (ExceptT.run (find table name)) s = (.ok a, s')) :
    (table s).lookup name = some a ∧ s = s' :=
  of_run_required h

theorem of_run_ofExcept {result : Except DeviceError α} {a : α}
    (h : StateT.run (ExceptT.run (ofExcept result)) s = (.ok a, s')) :
    result = .ok a ∧ s = s' := by
  cases result with
  | error cause => cases h
  | ok a' =>
    cases h
    exact ⟨rfl, rfl⟩

theorem of_run_required_bind {name : String} {value : Option α} {next : α → Turn β} {b : β}
    (h : StateT.run (ExceptT.run (required name value >>= next)) s = (.ok b, s')) :
    ∃ a, value = some a ∧ StateT.run (ExceptT.run (next a)) s = (.ok b, s') := by
  obtain ⟨a, s₁, hvalue, hnext⟩ := exists_of_run_bind h
  obtain ⟨ha, rfl⟩ := of_run_required hvalue
  exact ⟨a, ha, hnext⟩

theorem of_run_find_bind {table : Session → Names α} {name : String} {next : α → Turn β} {b : β}
    (h : StateT.run (ExceptT.run (find table name >>= next)) s = (.ok b, s')) :
    ∃ a, (table s).lookup name = some a ∧ StateT.run (ExceptT.run (next a)) s = (.ok b, s') := by
  obtain ⟨a, s₁, hfind, hnext⟩ := exists_of_run_bind h
  obtain ⟨ha, rfl⟩ := of_run_find hfind
  exact ⟨a, ha, hnext⟩

theorem of_run_ofExcept_bind {result : Except DeviceError α} {next : α → Turn β} {b : β}
    (h : StateT.run (ExceptT.run (ofExcept result >>= next)) s = (.ok b, s')) :
    ∃ a, result = .ok a ∧ StateT.run (ExceptT.run (next a)) s = (.ok b, s') := by
  obtain ⟨a, s₁, hresult, hnext⟩ := exists_of_run_bind h
  obtain ⟨ha, rfl⟩ := of_run_ofExcept hresult
  exact ⟨a, ha, hnext⟩

theorem run_act_of_error {cause : ε → Failure} {action : Action ε α} {e : ε} {store : Store}
    (haction : Action.exec action s.store = (.error (.error e), store)) :
    StateT.run (ExceptT.run (act cause action)) s =
      (.error (.error (cause e)), { s with store := store }) := by
  have hmapped : (action.mapError cause).exec s.store = (.error (.error (cause e)), store) :=
    Action.exec_mapError_of_error haction
  change (((action.mapError cause).exec s.store).1,
    { s with store := ((action.mapError cause).exec s.store).2 }) = _
  rw [hmapped]

theorem run_act_eq_ok_iff {cause : ε → Failure} {action : Action ε α} {a : α} :
    StateT.run (ExceptT.run (act cause action)) s = (.ok a, s') ↔
      ∃ store, Action.exec action s.store = (.ok a, store) ∧ s' = { s with store := store } := by
  change (((action.mapError cause).exec s.store).1,
    { s with store := ((action.mapError cause).exec s.store).2 }) = _ ↔ _
  simp only [← Action.exec_mapError_eq_ok_iff (f := cause)]
  rcases (action.mapError cause).exec s.store with ⟨outcome, store⟩
  constructor
  · intro h
    cases h
    exact ⟨store, rfl, rfl⟩
  · rintro ⟨_, heq, rfl⟩
    cases heq
    rfl

theorem of_run_act_bind {cause : ε → Failure} {action : Action ε α} {next : α → Turn β} {b : β}
    (h : StateT.run (ExceptT.run (act cause action >>= next)) s = (.ok b, s')) :
    ∃ a store, Action.exec action s.store = (.ok a, store) ∧
      StateT.run (ExceptT.run (next a)) { s with store := store } = (.ok b, s') := by
  obtain ⟨a, s₁, hact, hnext⟩ := exists_of_run_bind h
  obtain ⟨store, hexec, rfl⟩ := run_act_eq_ok_iff.mp hact
  exact ⟨a, store, hexec, hnext⟩

end Results

/-! ## Reading and acting

These rules hold for whatever describes the store, its balance included. -/

section Under

variable {P : Store → Prop}

theorem under_required (name : String) (value : Option α) (herr : ∀ s, Under s₀ P s → err s) :
    Triple (Under s₀ P) (required name value) (fun a s => Under s₀ P s ∧ value = some a) err := by
  cases value with
  | some a => exact Triple.pure fun _ hs => ⟨hs, rfl⟩
  | none => exact Triple.throw herr _

/-- What a name was found to stand for may be used afterwards. -/
theorem under_find {table : Session → Names α}
    (htable : ∀ store : Store, table { s₀ with store := store } = table s₀) (name : String)
    (herr : ∀ s, Under s₀ P s → err s) :
    Triple (Under s₀ P) (find table name)
      (fun a s => Under s₀ P s ∧ (table s₀).lookup name = some a) err := by
  refine Triple.via (fun s' s => Under s₀ P s ∧ table s' = table s₀) ?_
    fun s' => Triple.given fun heq => ?_
  · rintro s ⟨store, hstore, rfl⟩
    exact ⟨⟨store, hstore, rfl⟩, htable store⟩
  · rw [heq]
    exact under_required name _ herr

theorem under_ofExcept (result : Except DeviceError α) (herr : ∀ s, Under s₀ P s → err s) :
    Triple (Under s₀ P) (ofExcept result) (fun _ => Under s₀ P) err := by
  cases result with
  | ok a => exact Triple.pure fun _ hs => hs
  | error cause => exact Triple.throw herr _

theorem under_ask (f : Store → α) : Triple (Under s₀ P) (ask f) (fun _ => Under s₀ P) err :=
  Triple.bind Triple.get fun _ => Triple.pure fun _ hs => hs

/-- An action runs on the store under the names that the turn began with. -/
theorem under_act {cause : ε → Failure} {action : Action ε α} {Q : α → Store → Prop}
    {E : Store → Prop} (haction : Triple P action Q E) (herr : ∀ s, Under s₀ E s → err s) :
    Triple (Under s₀ P) (act cause action) (fun a => Under s₀ (Q a)) err := by
  rintro s ⟨store, hstore, rfl⟩
  have hend := Action.triple_mapError (f := cause) haction store hstore
  change Ends _ _ ((action.mapError cause).exec store) at hend
  change Ends _ _ (((action.mapError cause).exec store).1,
    { s₀ with store := ((action.mapError cause).exec store).2 })
  revert hend
  rcases (action.mapError cause).exec store with ⟨(fault | a), store'⟩
  · cases fault with
    | error cause => exact fun hend => herr _ ⟨store', hend, rfl⟩
    | trap => exact fun _ => trivial
  · exact fun hend => ⟨store', hend, rfl⟩

theorem under_change {Q : α → Store → Prop} {f : Store → α × Store}
    (hf : ∀ s, P s → Q (f s).1 (f s).2) :
    Triple (Under s₀ P) (change f) (fun a => Under s₀ (Q a)) err := by
  rintro s ⟨store, hstore, rfl⟩
  exact ⟨(f store).2, hf store hstore, rfl⟩

theorem under_update {Q : Store → Prop} {f : Store → Store} (hf : ∀ s, P s → Q (f s)) :
    Triple (Under s₀ P) (onDevice (Action.update f)) (fun _ => Under s₀ Q) err := by
  rintro s ⟨store, hstore, rfl⟩
  exact ⟨f store, hf store hstore, rfl⟩

/-- A change of tables that leaves the store. -/
theorem under_rename {f : Session → Session}
    (hf : ∀ store : Store, f { s₀ with store := store } = { f s₀ with store := store }) :
    Triple (Under s₀ P) (modify f : Turn Unit) (fun _ => Under (f s₀) P) err := by
  refine Triple.modify ?_
  rintro s ⟨store, hstore, rfl⟩
  exact ⟨store, hstore, hf store⟩

end Under

/-! ## What is held on the way -/

theorem triple_required (name : String) (value : Option α) (herr : ∀ s, During s₀ h s → err s) :
    Triple (During s₀ h) (required name value) (fun a s => During s₀ h s ∧ value = some a) err :=
  under_required (P := Holds h) name value herr

theorem triple_find {table : Session → Names α}
    (htable : ∀ store : Store, table { s₀ with store := store } = table s₀) (name : String)
    (herr : ∀ s, During s₀ h s → err s) :
    Triple (During s₀ h) (find table name)
      (fun a s => During s₀ h s ∧ (table s₀).lookup name = some a) err :=
  under_find (P := Holds h) htable name herr

/-- Nothing needs to be known of an object that holds nothing. -/
theorem triple_find_any {table : Session → Names α} (name : String)
    (herr : ∀ s, During s₀ h s → err s) :
    Triple (During s₀ h) (find table name) (fun _ => During s₀ h) err := by
  refine Triple.bind Triple.get fun s' => ?_
  exact (triple_required name _ herr).conseq (fun _ hs => hs) (fun _ _ hs => hs.1) fun _ hs => hs

theorem triple_ofExcept (result : Except DeviceError α) (herr : ∀ s, During s₀ h s → err s) :
    Triple (During s₀ h) (ofExcept result) (fun _ => During s₀ h) err :=
  under_ofExcept (P := Holds h) result herr

theorem triple_ask (f : Store → α) :
    Triple (During s₀ h) (ask f) (fun _ => During s₀ h) err :=
  under_ask (P := Holds h) f

theorem triple_act {cause : ε → Failure} {action : Action ε α} {h' : α → Holdings}
    {h'' : Holdings} (haction : Triple (Holds h) action (fun a => Holds (h' a)) (Holds h''))
    (herr : ∀ s, During s₀ h'' s → err s) :
    Triple (During s₀ h) (act cause action) (fun a => During s₀ (h' a)) err :=
  under_act (Q := fun a => Holds (h' a)) (E := Holds h'') haction herr

theorem triple_change (h' : α → Holdings) {f : Store → α × Store}
    (hf : ∀ s, s.Balanced h → (f s).2.Balanced (h' (f s).1)) :
    Triple (During s₀ h) (change f) (fun a => During s₀ (h' a)) err :=
  under_change (P := Holds h) (Q := fun a => Holds (h' a)) hf

theorem triple_update (h' : Holdings) {f : Store → Store}
    (hf : ∀ s, s.Balanced h → (f s).Balanced h') :
    Triple (During s₀ h) (onDevice (Action.update f)) (fun _ => During s₀ h') err :=
  under_update (P := Holds h) (Q := Holds h') hf

/-- A change of tables that hold nothing. -/
theorem triple_rename {f : Session → Session}
    (hf : ∀ store : Store, f { s₀ with store := store } = { f s₀ with store := store }) :
    Triple (During s₀ h) (modify f : Turn Unit) (fun _ => During (f s₀) h) err :=
  under_rename (P := Holds h) hf

/-! ## Objects of a turn that keeps what they hold -/

variable {next : α → Turn β}

/-- A turn that acts on the store and answers. -/
theorem triple_finish (hs₀ : s₀.Distinct) {cause : ε → Failure} {action : Action ε α}
    {answer : α → β}
    (haction : Triple (Holds s₀.holdings) action (fun _ => Holds s₀.holdings)
      (Holds s₀.holdings)) :
    Triple (During s₀ s₀.holdings) (act cause action >>= fun a => pure (answer a)) (fun _ => Sound)
      Sound :=
  Triple.bind (triple_act haction fun _ hs => hs.sound hs₀) fun _ =>
    Triple.pure fun _ hs => hs.sound hs₀

/-- An object of a table in which names are looked up, and what is known of it then. -/
theorem triple_using (hs₀ : s₀.Distinct) {table : Session → Names α}
    (htable : ∀ store : Store, table { s₀ with store := store } = table s₀) {name : String}
    (hnext : ∀ a, (table s₀).lookup name = some a →
      Triple (During s₀ s₀.holdings) (next a) (fun _ => Sound) Sound) :
    Triple (During s₀ s₀.holdings) (find table name >>= next) (fun _ => Sound) Sound :=
  Triple.bind (triple_find htable name fun _ hs => hs.sound hs₀) fun a => Triple.given (hnext a)

theorem triple_usingBuffer (hs₀ : s₀.Distinct) {name : String} {next : Buffer → Turn β}
    (hnext : ∀ b : Buffer, b.allocation ∈ s₀.holdings.handles →
      Triple (During s₀ s₀.holdings) (next b) (fun _ => Sound) Sound) :
    Triple (During s₀ s₀.holdings) (find buffers name >>= next) (fun _ => Sound) Sound :=
  triple_using hs₀ (fun _ => rfl) fun b hb => hnext b (mem_handles_of_buffer hs₀ hb)

theorem triple_usingPool (hs₀ : s₀.Distinct) {name : String} {next : PoolId → Turn β}
    (hnext : ∀ p, p ∈ s₀.holdings.pools →
      Triple (During s₀ s₀.holdings) (next p) (fun _ => Sound) Sound) :
    Triple (During s₀ s₀.holdings) (find pools name >>= next) (fun _ => Sound) Sound :=
  triple_using hs₀ (fun _ => rfl) fun p hp => hnext p (mem_pools_of_pool hs₀ hp)

theorem triple_usingArray (hs₀ : s₀.Distinct) {name : String} {next : AnyArray → Turn β}
    (hnext : ∀ a : AnyArray, a.array.HeldIn s₀.holdings →
      Triple (During s₀ s₀.holdings) (next a) (fun _ => Sound) Sound) :
    Triple (During s₀ s₀.holdings) (find arrays name >>= next) (fun _ => Sound) Sound :=
  triple_using hs₀ (fun _ => rfl) fun a ha => hnext a (heldIn_of_array hs₀ ha)

end Turn

/-! ## Giving names -/

theorem triple_nameBuffer (hs₀ : s₀.Distinct) (id : String) (b : Buffer) :
    Triple (During s₀ (s₀.holdings + b.holdings)) (nameBuffer id b) (fun _ => Sound) err := by
  refine Triple.modify ?_
  rintro s ⟨store, hstore, rfl⟩
  refine ⟨⟨hs₀.buffers.put id b, hs₀.pools, hs₀.contexts, hs₀.arrays⟩, ?_⟩
  rw [holdings_buffers] at hstore ⊢
  exact dropOld_put hs₀.buffers id Store.Balanced.dropHandle hstore

theorem triple_namePool (hs₀ : s₀.Distinct) (id : String) (p : PoolId) :
    Triple (During s₀ (s₀.holdings + .pool p)) (namePool id p) (fun _ => Sound) err := by
  refine Triple.modify ?_
  rintro s ⟨store, hstore, rfl⟩
  refine ⟨⟨hs₀.buffers, hs₀.pools.put id p, hs₀.contexts, hs₀.arrays⟩, ?_⟩
  rw [holdings_pools] at hstore ⊢
  exact dropOld_put hs₀.pools id Store.Balanced.dropPoolHandle hstore

theorem triple_nameContext (hs₀ : s₀.Distinct) (id : String) (c : Context) :
    Triple (During s₀ (s₀.holdings + c.holdings)) (nameContext id c) (fun _ => Sound) err := by
  refine Triple.modify ?_
  rintro s ⟨store, hstore, rfl⟩
  refine ⟨⟨hs₀.buffers, hs₀.pools, hs₀.contexts.put id c, hs₀.arrays⟩, ?_⟩
  rw [holdings_contexts] at hstore ⊢
  exact dropOld_put hs₀.contexts id Store.Balanced.dropContext hstore

theorem triple_nameArray (hs₀ : s₀.Distinct) (id : String) (a : AnyArray) :
    Triple (During s₀ (s₀.holdings + a.holdings)) (nameArray id a) (fun _ => Sound) err := by
  refine Triple.modify ?_
  rintro s ⟨store, hstore, rfl⟩
  refine ⟨⟨hs₀.buffers, hs₀.pools, hs₀.contexts, hs₀.arrays.put id a⟩, ?_⟩
  rw [holdings_arrays] at hstore ⊢
  exact dropOld_put hs₀.arrays id BlockArray.drop_balanced hstore

/-- A context is put back with what it holds. -/
theorem triple_updateContext (hs₀ : s₀.Distinct) (id : String) (c : Context) :
    Triple (During s₀ (s₀.besideContext id + c.holdings)) (updateContext id c) (fun _ => Sound)
      err := by
  refine Triple.modify ?_
  rintro s ⟨store, hstore, rfl⟩
  refine ⟨⟨hs₀.buffers, hs₀.pools, hs₀.contexts.put id c, hs₀.arrays⟩, ?_⟩
  rw [holdings_contexts, Names.holdings_put, ← add_assoc]
  exact hstore

/-- An array is put back with all that it came to hold. -/
theorem triple_updateArray (hs₀ : s₀.Distinct) (id : String) (a : AnyArray) :
    Triple (During s₀ (s₀.besideArray id + a.holdings)) (updateArray id a) (fun _ => Sound)
      err := by
  refine Triple.modify ?_
  rintro s ⟨store, hstore, rfl⟩
  refine ⟨⟨hs₀.buffers, hs₀.pools, hs₀.contexts, hs₀.arrays.put id a⟩, ?_⟩
  rw [holdings_arrays, Names.holdings_put, ← add_assoc]
  exact hstore

/-! ## Taking names away -/

theorem triple_dropBuffer (hs₀ : s₀.Distinct) (id : String) :
    Triple (During s₀ s₀.holdings) (BufferCommand.drop id).run (fun _ => Sound) err := by
  rintro s ⟨store, hstore, rfl⟩
  refine ⟨⟨hs₀.buffers.erase id, hs₀.pools, hs₀.contexts, hs₀.arrays⟩, ?_⟩
  rw [holdings_buffers] at hstore ⊢
  exact dropOld_erase hs₀.buffers id Store.Balanced.dropHandle hstore

theorem triple_dropPool (hs₀ : s₀.Distinct) (id : String) :
    Triple (During s₀ s₀.holdings) (PoolCommand.drop id).run (fun _ => Sound) err := by
  rintro s ⟨store, hstore, rfl⟩
  refine ⟨⟨hs₀.buffers, hs₀.pools.erase id, hs₀.contexts, hs₀.arrays⟩, ?_⟩
  rw [holdings_pools] at hstore ⊢
  exact dropOld_erase hs₀.pools id Store.Balanced.dropPoolHandle hstore

theorem triple_dropContext (hs₀ : s₀.Distinct) (id : String) :
    Triple (During s₀ s₀.holdings) (ContextCommand.drop id).run (fun _ => Sound) err := by
  rintro s ⟨store, hstore, rfl⟩
  refine ⟨⟨hs₀.buffers, hs₀.pools, hs₀.contexts.erase id, hs₀.arrays⟩, ?_⟩
  rw [holdings_contexts] at hstore ⊢
  exact dropOld_erase hs₀.contexts id Store.Balanced.dropContext hstore

theorem triple_dropArray (hs₀ : s₀.Distinct) (id : String) :
    Triple (During s₀ s₀.holdings) (ArrayCommand.drop id).run (fun _ => Sound) err := by
  rintro s ⟨store, hstore, rfl⟩
  refine ⟨⟨hs₀.buffers, hs₀.pools, hs₀.contexts, hs₀.arrays.erase id⟩, ?_⟩
  rw [holdings_arrays] at hstore ⊢
  exact dropOld_erase hs₀.arrays id BlockArray.drop_balanced hstore

end DeviceMemory.Session
