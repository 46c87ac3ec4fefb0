-- SUMMARY: Triples of operations that can fault: what holds after a result, and what holds after a failure.
import DeviceMemory.Proofs.Store.Balance

/-!
# Triples

A triple says of an operation from which states it ends well: with a result in
states that `post` describes, or with a cause of failure in states that `err`
describes. It says nothing of an operation that stops at a broken precondition.

There is one rule for each way to build an operation. Most triples are about what
users hold (`Holds`): an operation that fails leaves them what they held before.
-/

namespace DeviceMemory

variable {σ ε δ α β : Type}

/-- An end that `post` or `err` describes, or a trap. -/
def Ends (post : α → σ → Prop) (err : σ → Prop) : Except (Fault ε) α × σ → Prop
  | (.ok a, s) => post a s
  | (.error (.error _), s) => err s
  | (.error .trap, _) => True

/-- From every state that `pre` describes, the operation ends as `post` and `err` say. -/
def Triple (pre : σ → Prop) (m : ExceptT (Fault ε) (StateM σ) α) (post : α → σ → Prop)
    (err : σ → Prop) : Prop :=
  ∀ s, pre s → Ends post err (StateT.run (ExceptT.run m) s)

/-- The store agrees with these holdings of its users. -/
def Holds (h : Holdings) (s : Store) : Prop := s.Balanced h

namespace Triple

variable {pre pre' : σ → Prop} {post post' : α → σ → Prop} {err err' : σ → Prop}
variable {m : ExceptT (Fault ε) (StateM σ) α}

theorem conseq (hm : Triple pre m post err) (hpre : ∀ s, pre' s → pre s)
    (hpost : ∀ a s, post a s → post' a s) (herr : ∀ s, err s → err' s) :
    Triple pre' m post' err' := by
  intro s hs
  have hend := hm s (hpre s hs)
  revert hend
  rcases StateT.run (ExceptT.run m) s with ⟨(fault | a), s'⟩
  · cases fault with
    | error cause => exact herr s'
    | trap => exact fun hend => hend
  · exact hpost a s'

/-- Two descriptions of one operation hold together. -/
theorem and (hm : Triple pre m post err) (hm' : Triple pre' m post' err') :
    Triple (fun s => pre s ∧ pre' s) m (fun a s => post a s ∧ post' a s)
      (fun s => err s ∧ err' s) := by
  intro s hs
  have hend := hm s hs.1
  have hend' := hm' s hs.2
  revert hend hend'
  rcases StateT.run (ExceptT.run m) s with ⟨(fault | a), s'⟩
  · cases fault with
    | error cause => exact fun hend hend' => ⟨hend, hend'⟩
    | trap => exact fun _ _ => trivial
  · exact fun hend hend' => ⟨hend, hend'⟩

/-- A fact about the states before may be used at once. -/
theorem given {φ : Prop} (hm : φ → Triple pre m post err) :
    Triple (fun s => pre s ∧ φ) m post err :=
  fun s hs => hm hs.2 s hs.1

theorem pure {a : α} (h : ∀ s, pre s → post a s) :
    Triple pre (Pure.pure a : ExceptT (Fault ε) (StateM σ) α) post err := h

theorem throw (h : ∀ s, pre s → err s) (cause : ε) :
    Triple pre (MonadExcept.throw (.error cause) : ExceptT (Fault ε) (StateM σ) α) post err := h

theorem bind {mid : α → σ → Prop} {next : α → ExceptT (Fault ε) (StateM σ) β}
    {post : β → σ → Prop} (hm : Triple pre m mid err)
    (hnext : ∀ a, Triple (mid a) (next a) post err) : Triple pre (m >>= next) post err := by
  intro s hs
  have hmid := hm s hs
  have hrun : StateT.run (ExceptT.run (m >>= next)) s =
      (ExceptT.bindCont next (StateT.run (ExceptT.run m) s).1) (StateT.run (ExceptT.run m) s).2 :=
    rfl
  rw [hrun]
  revert hmid
  rcases StateT.run (ExceptT.run m) s with ⟨(fault | a), s'⟩
  · cases fault <;> exact fun hend => hend
  · exact hnext a s'

/-- A sequence, with the states in between named. -/
theorem via (mid : α → σ → Prop) {next : α → ExceptT (Fault ε) (StateM σ) β}
    {post : β → σ → Prop} (hm : Triple pre m mid err)
    (hnext : ∀ a, Triple (mid a) (next a) post err) : Triple pre (m >>= next) post err :=
  bind hm hnext

theorem get : Triple pre (MonadState.get : ExceptT (Fault ε) (StateM σ) σ) (fun _ => pre) err :=
  fun _ hs => hs

theorem modify {f : σ → σ} {post : PUnit → σ → Prop} (h : ∀ s, pre s → post ⟨⟩ (f s)) :
    Triple pre (modify f : ExceptT (Fault ε) (StateM σ) PUnit) post err := h

end Triple

/-! ## Actions -/

namespace Action

variable {pre : Store → Prop} {post : α → Store → Prop} {err : Store → Prop}

theorem triple_of {f : Store → Except (Fault ε) α × Store}
    (h : ∀ s, pre s → Ends post err (f s)) : Triple pre (of f) post err := h

/-- What a triple says of a result. -/
theorem of_exec_triple {act : Action ε α} (hact : Triple pre act post err) {s s' : Store}
    (hs : pre s) {a : α} (h : exec act s = (.ok a, s')) : post a s' := by
  have hend := hact s hs
  change Ends post err (exec act s) at hend
  rwa [h] at hend

theorem triple_update {f : Store → Store} {post : Unit → Store → Prop}
    (h : ∀ s, pre s → post () (f s)) : Triple pre (update f : Action ε Unit) post err := h

theorem triple_total {f : Store → α × Store} (h : ∀ s, pre s → post (f s).1 (f s).2) :
    Triple pre (total f : Action ε α) post err := h

theorem triple_read {f : Store → α} : Triple pre (read f : Action ε α) (fun _ => pre) err :=
  fun _ hs => hs

theorem triple_fail (h : ∀ s, pre s → err s) (cause : ε) :
    Triple pre (fail cause : Action ε α) post err := h

theorem triple_trap : Triple pre (trap : Action ε α) post err := fun _ _ => trivial

/-- A checked value is there, or nothing is asked. -/
theorem triple_checked {value : Option α} :
    Triple pre (checked value : Action ε α) (fun _ => pre) err := by
  cases value with
  | none => exact triple_trap
  | some a => exact Triple.pure fun _ hs => hs

theorem triple_ensure {condition : Prop} [Decidable condition] {cause : ε}
    (herr : ∀ s, pre s → err s) : Triple pre (ensure condition cause) (fun _ => pre) err := by
  unfold ensure
  split
  next => exact Triple.pure fun _ hs => hs
  next => exact triple_fail herr cause

theorem triple_mapError {f : ε → δ} {act : Action ε α} (h : Triple pre act post err) :
    Triple pre (mapError f act) post err := by
  intro s hs
  have hend := h s hs
  change Ends post err (exec act s) at hend
  change Ends post err (exec (mapError f act) s)
  rw [mapError, exec_of]
  revert hend
  rcases exec act s with ⟨(fault | a), s'⟩
  · cases fault <;> exact fun hend => hend
  · exact fun hend => hend

theorem triple_thenDrop {act : Action ε α} {id : AllocationId}
    (h : Triple pre act (fun a s => post a (s.dropHandle id)) (fun s => err (s.dropHandle id))) :
    Triple pre (act.thenDrop id) post err := by
  intro s hs
  have hend := h s hs
  change Ends _ _ (exec act s) at hend
  change Ends post err (exec (act.thenDrop id) s)
  rw [thenDrop, exec_of]
  revert hend
  rcases exec act s with ⟨(fault | a), s'⟩
  · cases fault <;> exact fun hend => hend
  · exact fun hend => hend

theorem triple_orDrop {act : Action ε α} {id : AllocationId}
    (h : Triple pre act post (fun s => err (s.dropHandle id))) :
    Triple pre (act.orDrop id) post err := by
  intro s hs
  have hend := h s hs
  change Ends _ _ (exec act s) at hend
  change Ends post err (exec (act.orDrop id) s)
  rw [orDrop, exec_of]
  revert hend
  rcases exec act s with ⟨(fault | a), s'⟩
  · cases fault <;> exact fun hend => hend
  · exact fun hend => hend

/-- A handle that is held during an action is dropped after it. -/
theorem triple_thenDropHandle {h : Holdings} {act : Action ε α} {id : AllocationId}
    (hact : Triple (Holds (h + .handle id)) act (fun _ => Holds (h + .handle id))
      (Holds (h + .handle id))) :
    Triple (Holds (h + .handle id)) (act.thenDrop id) (fun _ => Holds h) (Holds h) :=
  triple_thenDrop (hact.conseq (fun _ hs => hs) (fun _ _ hs => Store.Balanced.dropHandle hs)
    fun _ hs => Store.Balanced.dropHandle hs)

/-- A handle is kept if the action ends well. -/
theorem triple_orDropHandle {h : Holdings} {act : Action ε α} {id : AllocationId}
    (hact : Triple (Holds (h + .handle id)) act (fun _ => Holds (h + .handle id))
      (Holds (h + .handle id))) :
    Triple (Holds (h + .handle id)) (act.orDrop id) (fun _ => Holds (h + .handle id)) (Holds h) :=
  triple_orDrop (hact.conseq (fun _ hs => hs) (fun _ _ hs => hs)
    fun _ hs => Store.Balanced.dropHandle hs)

end Action

end DeviceMemory
