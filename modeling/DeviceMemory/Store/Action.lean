-- SUMMARY: Operations on the store that can fail: what they leave behind, and how they clean up.
import DeviceMemory.Store.Basic

/-!
# Actions

An action reads and changes the store and ends with a result or a fault. What it
changed before a fault stays changed. An action that holds a handle for a while
drops it by `Action.thenDrop`, or by `Action.orDrop` if only a fault ends the
use; both do so on every way out.
-/

namespace DeviceMemory

/-- An operation on the store that can fail with a cause of type `ε`. -/
abbrev Action (ε α : Type) := ExceptT (Fault ε) (StateM Store) α

namespace Action

variable {ε δ α β : Type}

/-- The outcome of an action and the store it leaves. -/
def exec (act : Action ε α) (s : Store) : Except (Fault ε) α × Store :=
  StateT.run (ExceptT.run act) s

/-- The action that a function of the store is. -/
def of (f : Store → Except (Fault ε) α × Store) : Action ε α :=
  ExceptT.mk (StateT.mk f)

/-- A change of the store that cannot fail. -/
def update (f : Store → Store) : Action ε Unit :=
  of fun s => (.ok (), f s)

/-- A change of the store that cannot fail and has a result. -/
def total (f : Store → α × Store) : Action ε α :=
  of fun s => let (a, s) := f s; (.ok a, s)

/-- What a function of the store says of it now. -/
def read (f : Store → α) : Action ε α :=
  of fun s => (.ok (f s), s)

/-- Fail with a cause. -/
def fail (cause : ε) : Action ε α :=
  of fun s => (.error (.error cause), s)

/-- Stop at a broken precondition. -/
def trap : Action ε α :=
  of fun s => (.error .trap, s)

/-- The value, or a trap where there is none. -/
def checked (value : Option α) : Action ε α :=
  match value with
  | some a => pure a
  | none => trap

/-- Fail with a cause unless the condition holds. -/
def ensure (condition : Prop) [Decidable condition] (cause : ε) : Action ε Unit :=
  if condition then pure () else fail cause

/-- The action, its cause of failure seen from an enclosing operation. -/
def mapError (f : ε → δ) (act : Action ε α) : Action δ α :=
  of fun s =>
    match act.exec s with
    | (.ok a, s) => (.ok a, s)
    | (.error fault, s) => (.error (fault.map f), s)

/-- The action, and after it, however it ends, one handle less. -/
def thenDrop (act : Action ε α) (id : AllocationId) : Action ε α :=
  of fun s => let (outcome, s) := act.exec s; (outcome, s.dropHandle id)

/-- The action, and one handle less if it ends with a fault. -/
def orDrop (act : Action ε α) (id : AllocationId) : Action ε α :=
  of fun s =>
    match act.exec s with
    | (.ok a, s) => (.ok a, s)
    | (.error fault, s) => (.error fault, s.dropHandle id)

/-! ## Outcomes

The outcome of each way to build an action, in terms of the outcomes of its
parts. -/

@[simp] theorem exec_pure (a : α) (s : Store) :
    exec (pure a : Action ε α) s = (.ok a, s) := rfl

theorem exec_bind (act : Action ε α) (next : α → Action ε β) (s : Store) :
    exec (act >>= next) s =
      match exec act s with
      | (.ok a, s) => exec (next a) s
      | (.error fault, s) => (.error fault, s) := by
  have hrun : exec (act >>= next) s = (ExceptT.bindCont next (exec act s).1) (exec act s).2 := rfl
  rw [hrun]
  rcases exec act s with ⟨outcome, s'⟩
  cases outcome <;> rfl

theorem exec_bind_of_ok {act : Action ε α} {next : α → Action ε β} {s s' : Store} {a : α}
    (h : exec act s = (.ok a, s')) : exec (act >>= next) s = exec (next a) s' := by
  rw [exec_bind, h]

theorem exec_bind_of_error {act : Action ε α} {next : α → Action ε β} {s s' : Store}
    {fault : Fault ε} (h : exec act s = (.error fault, s')) :
    exec (act >>= next) s = (.error fault, s') := by
  rw [exec_bind, h]

@[simp] theorem exec_of (f : Store → Except (Fault ε) α × Store) (s : Store) :
    exec (of f) s = f s := rfl

@[simp] theorem exec_update (f : Store → Store) (s : Store) :
    exec (update f : Action ε Unit) s = (.ok (), f s) := rfl

@[simp] theorem exec_total (f : Store → α × Store) (s : Store) :
    exec (total f : Action ε α) s = (.ok (f s).1, (f s).2) := rfl

@[simp] theorem exec_read (f : Store → α) (s : Store) :
    exec (read f : Action ε α) s = (.ok (f s), s) := rfl

@[simp] theorem exec_fail (cause : ε) (s : Store) :
    exec (fail cause : Action ε α) s = (.error (.error cause), s) := rfl

@[simp] theorem exec_trap (s : Store) : exec (trap : Action ε α) s = (.error .trap, s) := rfl

/-- Seen from an enclosing operation, a result is the same result. -/
theorem exec_mapError_eq_ok_iff {f : ε → δ} {act : Action ε α} {s s' : Store} {a : α} :
    exec (mapError f act) s = (.ok a, s') ↔ exec act s = (.ok a, s') := by
  simp only [mapError, exec_of]
  rcases exec act s with ⟨fault | b, s₁⟩
  · exact iff_of_false nofun nofun
  · simp only [Prod.mk.injEq, Except.ok.injEq]

/-- Seen from an enclosing operation, a fault has its cause mapped. -/
theorem exec_mapError_of_error {f : ε → δ} {act : Action ε α} {fault : Fault ε} {s s' : Store}
    (h : exec act s = (.error fault, s')) :
    exec (mapError f act) s = (.error (fault.map f), s') := by
  rw [mapError, exec_of, h]

theorem exec_checked (value : Option α) (s : Store) :
    exec (checked value : Action ε α) s =
      match value with
      | some a => (.ok a, s)
      | none => (.error .trap, s) := by
  cases value <;> rfl

theorem exec_ensure (condition : Prop) [Decidable condition] (cause : ε) (s : Store) :
    exec (ensure condition cause) s =
      if condition then (.ok (), s) else (.error (.error cause), s) := by
  unfold ensure
  split <;> rfl

end Action

end DeviceMemory
