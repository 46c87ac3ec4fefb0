-- SUMMARY: What a pool answers at any moment of a run follows from the history of its keys.
import DeviceMemory.Proofs.Session.History

/-!
# Slots and histories

What a pool in use says and does after a run of commands, in terms of which keys
are live in the sense of their histories (`Live`): the keys that it contains and
how many, what a release says, and the outcome of every acquisition. The pool has
weak and retained slots and forgets dead ones at times of its own choosing; none
of this shows.
-/

namespace DeviceMemory.Session

variable {commands : List Command} {p : PoolId}

/-- What a pool says and does in a store, in terms of the keys that are live after a run of
    commands. -/
structure Follows (commands : List Command) (p : PoolId) (s : Store) : Prop where
  contains : ∀ key, Pool.contains p key s = true ↔ ∃ A, Live commands p key A
  liveSlots : ∃ keys : List PoolKey, keys.Nodup ∧
    (∀ key, key ∈ keys ↔ ∃ A, Live commands p key A) ∧ Pool.liveSlots p s = keys.length
  release : ∀ key, (Pool.release p key s).1 = true ↔ ∃ A, Live commands p key A
  /-- A live key of the same size hands out its whole allocation, one more handle to it. -/
  reused : ∀ {key A t shape}, Live commands p key A → byteSize? t shape = some (s.sizeOf A) →
    Action.exec (Pool.acquire p key t shape) s =
        (.ok (.whole A (s.sizeOf A) t shape, .reused), s.addHandle A) ∧
      ∀ id, (s.addHandle A).block? id = s.block? id
  /-- Another size is refused, and nothing changes. -/
  mismatch : ∀ {key A t shape size}, Live commands p key A → byteSize? t shape = some size →
    size ≠ s.sizeOf A →
    Action.exec (Pool.acquire p key t shape) s =
      (.error (.error (.slotMismatch key.id (s.sizeOf A) size)), s)
  /-- Any other key is answered by the allocator. -/
  fresh : ∀ {key t shape size}, (¬∃ A, Live commands p key A) → byteSize? t shape = some size →
    (Action.exec (Pool.acquire p key t shape) s).1 =
      (s.alloc (Pool.allocatorOf p s) size false).1.map fun _ =>
        (.whole s.allocations.length size t shape, .fresh)
  /-- What the allocator granted has no other handle than the one handed out and the slot's. -/
  alone : ∀ {key t shape b acquisition s'}, (¬∃ A, Live commands p key A) →
    Action.exec (Pool.acquire p key t shape) s = (.ok (b, acquisition), s') →
    s.handles b.allocation = 0 ∧
      s'.handles b.allocation = (if Pool.retainsOf p s then 2 else 1) ∧
      ∀ id ≠ b.allocation, s'.handles id = s.handles id
  /-- If it refused, no key became live, and all are as before. -/
  refused : ∀ {key t shape cause s'},
    Action.exec (Pool.acquire p key t shape) s = (.error (.error cause), s') →
    ∀ p' key', Pool.live? p' key' s' = Pool.live? p' key' s
  /-- A size that no word holds stops an acquisition at once. -/
  overflow : ∀ {key t shape}, byteSize? t shape = none →
    Action.exec (Pool.acquire p key t shape) s = (.error .trap, s)

/-- At every moment of a run, a pool in use follows the history of its keys. -/
theorem pools_follow_history (hclean : empty.isClean commands = true)
    (hp : p ∈ (empty.after commands).livePools) :
    Follows commands p (empty.after commands).store := by
  have hs : (empty.after commands).Sound := (Reachable.empty.after hclean).sound
  have hlive {key : PoolKey} {A : AllocationId} :
      Pool.live? p key (empty.after commands).store = some A ↔ Live commands p key A :=
    live?_iff_live hclean (hs.isOpen hp)
  have hsome (key : PoolKey) :
      (Pool.live? p key (empty.after commands).store).isSome = true ↔
        ∃ A, Live commands p key A := by
    simp only [Option.isSome_iff_exists, hlive]
  have hnone {key : PoolKey} (hdead : ¬∃ A, Live commands p key A) :
      Pool.live? p key (empty.after commands).store = none := by
    rwa [← Option.not_isSome_iff_eq_none, hsome]
  have hbalanced := hs.balanced
  generalize (empty.after commands).store = store at *
  have hends {key : PoolKey} {t : ScalarType} {shape : List Nat} {result}
      (hacquire : Action.exec (Pool.acquire p key t shape) store = result) :
      Ends (Pool.Acquired p key t shape store) ((Pool.pruned p key store).Since ∅ 0) result :=
    hacquire ▸ Pool.acquire_ends p key t shape
  refine ⟨fun key => ?_, ⟨Pool.liveKeys p store, ?_, fun key => ?_, ?_⟩, fun key => ?_,
    fun hkey hsize => ?_, fun hkey hsize hother => ?_, fun hdead hsize => ?_,
    fun hdead hacquire => ?_, fun hacquire => ?_, fun hsize => Pool.exec_acquire_trap hsize⟩
  · rw [Pool.contains_eq, hsome]
  · exact Pool.liveKeys_nodup hbalanced p
  · rw [Pool.mem_liveKeys hbalanced, hsome]
  · exact (Pool.length_liveKeys p store).symm
  · rw [Pool.release_flag, hsome]
  · rw [Pool.exec_acquire_live hsize (hlive.mpr hkey), if_pos rfl]
    exact ⟨rfl, fun id => Store.block?_addHandle _ id store⟩
  · rw [Pool.exec_acquire_live hsize (hlive.mpr hkey), if_neg (Ne.symm hother)]
  · exact Pool.outcome_acquire_new hsize (hnone hdead)
  · exact Pool.Acquired.handles_fresh (hends hacquire) (hnone hdead)
  · exact (hbalanced.spared (hends hacquire)).live?_eq hbalanced

/-- Commands of a pool that does not retain: a view keeps the first key live after the buffer
    it was acquired for is gone, and nothing keeps the second. -/
def viewedRun : List Command :=
  [.allocator (.make "device" .host [.metered]),
    .pool (.make "shared" "device" false),
    .pool (.acquire "first" "shared" ⟨1, Nat.one_ne_zero⟩ .int32 [4]),
    .buffer (.view "half" "first" 0 8),
    .buffer (.drop "first"),
    .pool (.acquire "second" "shared" ⟨2, Nat.succ_ne_zero 1⟩ .int32 [2]),
    .buffer (.drop "second")]

theorem pools_follow_history_viewedRun :
    Pool.contains 0 ⟨1, Nat.one_ne_zero⟩ (empty.after viewedRun).store = true ∧
      Pool.contains 0 ⟨2, Nat.succ_ne_zero 1⟩ (empty.after viewedRun).store = false ∧
      Follows viewedRun 0 (empty.after viewedRun).store :=
  ⟨rfl, rfl, pools_follow_history rfl (by decide)⟩

end DeviceMemory.Session
