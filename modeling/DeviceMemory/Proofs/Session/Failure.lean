-- SUMMARY: A command that fails, for whatever cause and however late, changes nothing that users can see.
import DeviceMemory.Proofs.Session.History

/-!
# Failures

Commands fail at many points: an argument is refused, memory on first use or a
temporary copy cannot be allocated, a launch is refused after snapshots of its
operands were made. Whichever it is, what users can see afterwards is what they
saw before: the bytes of every allocation, the handles to allocations and pools,
the keys that pools show, and all names with what they stand for, so arrays stay
acquired or not (`Reachable.failure_harmless`). Memory that an allocation without
any got on the way may stay, and allocators may have parked blocks.
-/

namespace DeviceMemory

/-- Nothing that users can see of a store is different: no byte of an allocation with memory,
    no number of handles, no key that a pool shows. -/
structure Store.Unharmed (s s' : Store) : Prop where
  memory : ∀ {id : AllocationId} {block : Block}, s.block? id = some block →
    s'.block? id = some block
  handles : ∀ id, s'.handles id = s.handles id
  poolHandles : ∀ id, s'.poolHandles id = s.poolHandles id
  live : ∀ p key, Pool.live? p key s' = Pool.live? p key s
  liveSlots : ∀ p, Pool.liveSlots p s' = Pool.liveSlots p s

theorem Store.Spared.unharmed {s s' : Store} {h h' : Holdings} (hs : s.Spared s')
    (hbalanced : s.Balanced h) (hbalanced' : s'.Balanced h') : s.Unharmed s' where
  memory := hs.block?_eq hbalanced
  handles := hs.handles
  poolHandles := hs.poolHandles
  live := hs.live?_eq hbalanced
  liveSlots p := by
    have hkeys : (Pool.liveKeys p s').Perm (Pool.liveKeys p s) := by
      refine (List.perm_ext_iff_of_nodup (Pool.liveKeys_nodup hbalanced' p)
        (Pool.liveKeys_nodup hbalanced p)).mpr fun key => ?_
      rw [Pool.mem_liveKeys hbalanced', Pool.mem_liveKeys hbalanced, hs.live?_eq hbalanced]
    rw [← Pool.length_liveKeys, ← Pool.length_liveKeys, hkeys.length_eq]

namespace Session

/-- A command that fails leaves all names as they were, over a store that shows no
    difference. -/
theorem Reachable.failure_harmless {s : Session} (hs : s.Reachable) {c : Command}
    (hc : c.isDirect = false) {cause : Failure}
    (herr : (s.step c).1.outcome = .error (.error cause)) :
    ∃ store, s.store.Unharmed store ∧ (s.step c).2 = { s with store := store } := by
  have htrap : (s.step c).1.isTrap = false := by rw [Reply.isTrap, herr]
  obtain ⟨store, hstore, hnext⟩ := hs.sound.step_failed hs.slotsFormed hc herr
  have hbalanced := (hs.sound.step hc htrap).balanced
  rw [hnext] at hbalanced
  exact ⟨store, hstore.unharmed hs.sound.balanced hbalanced, hnext⟩

/-- Commands that leave two ranges of one allocation and no room for a copy of either. -/
def crampedRun : List Command :=
  [.allocator (.make "device" (.limit 10) [.metered]),
    .buffer (.allocate "all" "device" .int32 [2] true),
    .buffer (.view "first" "all" 0 4),
    .buffer (.view "second" "all" 4 4)]

/-- A copy within an allocation fails once it needs a temporary one. -/
theorem failure_harmless_crampedRun :
    ((empty.after crampedRun).step (.buffer (.copy "first" "second"))).1.outcome =
        .error (.error (.device (.allocationFailed "CPU" 4 "8 of 10 bytes in use"))) ∧
      ∃ store, (empty.after crampedRun).store.Unharmed store ∧
        ((empty.after crampedRun).step (.buffer (.copy "first" "second"))).2 =
          { empty.after crampedRun with store := store } :=
  ⟨rfl, Reachable.failure_harmless (Reachable.empty.after rfl) rfl rfl⟩

end Session

end DeviceMemory
