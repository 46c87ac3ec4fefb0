-- SUMMARY: Lists of entries, replaced by position and removed by key, and what sums over them become.
import Mathlib.Algebra.BigOperators.Group.List.Basic
import Mathlib.Data.List.Nodup
import Mathlib.Tactic.Abel

/-!
# Entries

The tables of a store are lists that are read by position, and its names and
pool slots are lists that are read by key. These are the laws of both that
counting needs: what a replaced or removed entry was worth is the difference
that the change makes.
-/

namespace DeviceMemory.Entries

variable {α κ M : Type}

/-! ## By position -/

/-- Replacing an entry moves a sum by the difference of two terms. -/
theorem sum_map_set [AddCommMonoid M] (f : α → M) {l : List α} {i : Nat} {x : α}
    (hx : l[i]? = some x) (y : α) :
    ((l.set i y).map f).sum + f x = (l.map f).sum + f y := by
  induction l generalizing i with
  | nil => cases hx
  | cons z l ih =>
    cases i with
    | zero =>
      cases hx
      simp only [List.set_cons_zero, List.map_cons, List.sum_cons]
      abel
    | succ i =>
      have hl := ih hx
      simp only [List.set_cons_succ, List.map_cons, List.sum_cons]
      rw [add_assoc, hl, add_assoc]

theorem modify_eq_set {l : List α} {i : Nat} {x : α} (hx : l[i]? = some x) (f : α → α) :
    l.modify i f = l.set i (f x) := by
  apply List.ext_getElem?
  intro j
  rw [List.getElem?_modify, List.getElem?_set]
  by_cases hij : i = j
  · subst hij
    have hlt : i < l.length := (List.getElem?_eq_some_iff.mp hx).1
    simp [hlt, List.getElem?_eq_some_iff.mp hx |>.2]
  · simp [hij]

theorem forall_mem_set {l : List α} {i : Nat} {x : α} {P : α → Prop} (hx : P x)
    (hl : ∀ y ∈ l, P y) : ∀ y ∈ l.set i x, P y := fun y hy =>
  (List.mem_or_eq_of_mem_set hy).elim (hl y) fun heq => heq ▸ hx

/-! ## By key -/

theorem nodup_filter {l : List (κ × α)} (p : κ × α → Bool) (hkeys : (l.map Prod.fst).Nodup) :
    ((l.filter p).map Prod.fst).Nodup :=
  (List.filter_sublist.map Prod.fst).nodup hkeys

variable [DecidableEq κ] {k : κ} {a : α} {l : List (κ × α)}

theorem mem_of_lookup (hlookup : l.lookup k = some a) : (k, a) ∈ l := by
  obtain ⟨before, after, hsplit, -⟩ := List.lookup_eq_some_iff.mp hlookup
  simp [hsplit]

theorem filter_of_lookup_eq_none (hnone : l.lookup k = none) : l.filter (·.1 ≠ k) = l := by
  refine List.filter_eq_self.mpr fun entry hentry => ?_
  have hne : k ≠ entry.1 := by simpa using List.lookup_eq_none_iff.mp hnone entry hentry
  simpa using Ne.symm hne

theorem lookup_filter (k : κ) (l : List (κ × α)) : (l.filter (·.1 ≠ k)).lookup k = none := by
  rw [List.lookup_eq_none_iff]
  intro entry hentry
  have hne : entry.1 ≠ k := by simpa using (List.mem_filter.mp hentry).2
  simpa using Ne.symm hne

theorem lookup_filter_of_ne {k' : κ} (hne : k' ≠ k) (l : List (κ × α)) :
    (l.filter (·.1 ≠ k)).lookup k' = l.lookup k' := by
  induction l with
  | nil => rfl
  | cons entry l ih =>
    by_cases hk : entry.1 = k
    · rw [List.filter_cons_of_neg (by simpa using hk), ih, List.lookup_cons,
        beq_false_of_ne (hk ▸ hne)]
    · rw [List.filter_cons_of_pos (by simpa using hk), List.lookup_cons, List.lookup_cons, ih]

/-- A new key may be added. -/
theorem nodup_concat (hkeys : (l.map Prod.fst).Nodup) (hnone : l.lookup k = none) :
    ((l ++ [(k, a)]).map Prod.fst).Nodup := by
  rw [List.map_append, List.nodup_append]
  refine ⟨hkeys, List.nodup_singleton k, ?_⟩
  intro k' hk' k'' hk''
  obtain ⟨entry, hentry, rfl⟩ := List.mem_map.mp hk'
  have hne : k ≠ entry.1 := by simpa using List.lookup_eq_none_iff.mp hnone entry hentry
  rw [List.mem_singleton.mp hk'']
  exact Ne.symm hne

/-- Under distinct keys a removal takes one entry. -/
theorem sum_map_filter [AddCommMonoid M] (f : κ × α → M) (hkeys : (l.map Prod.fst).Nodup)
    (hlookup : l.lookup k = some a) :
    (l.map f).sum = f (k, a) + ((l.filter (·.1 ≠ k)).map f).sum := by
  induction l with
  | nil => cases hlookup
  | cons entry l ih =>
    obtain ⟨k', a'⟩ := entry
    rw [List.map_cons, List.nodup_cons] at hkeys
    by_cases hk : k = k'
    · subst hk
      simp only [List.lookup_cons_self, Option.some.injEq] at hlookup
      subst hlookup
      have hnone : l.lookup k = none := by
        rw [List.lookup_eq_none_iff]
        intro entry hentry
        have hne : k ≠ entry.1 := fun heq => hkeys.1 (List.mem_map.mpr ⟨entry, hentry, heq.symm⟩)
        simpa using hne
      rw [List.filter_cons_of_neg (by simp), filter_of_lookup_eq_none hnone, List.map_cons,
        List.sum_cons]
    · have hlookup' : l.lookup k = some a := by
        rwa [List.lookup_cons, beq_false_of_ne hk] at hlookup
      rw [List.filter_cons_of_pos (by simpa using Ne.symm hk), List.map_cons, List.map_cons,
        List.sum_cons, List.sum_cons, ih hkeys.2 hlookup', add_left_comm]

end DeviceMemory.Entries
