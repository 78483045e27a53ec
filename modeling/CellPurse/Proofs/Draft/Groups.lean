import CellPurse.Proofs.Assoc
import CellPurse.Transfer.Draft
import Mathlib.Data.List.Induction

/-!
# CellPurse.Proofs.Draft.Groups — the groups of a draft

* `positionsOf lock locks`: the places of a lock, in ascending order; the first of them is `locks.idxOf lock`;
* `groupsOf locks`: the groups of some locks; `mem_groupsOf_iff`: a group is one of the locks with its places;
  `nodup_keys_groupsOf`: each lock has one group; `pairwise_headD_groupsOf`: no two groups start at one place.
-/

namespace CellPurse.Draft

variable {lock : Script} {locks : List Script}

/-- The places of a lock. -/
def positionsOf (lock : Script) (locks : List Script) : List Nat :=
  (locks.zipIdx.filter fun e => e.1 = lock).map Prod.snd

theorem mem_positionsOf_iff {i : Nat} : i ∈ positionsOf lock locks ↔ locks[i]? = some lock := by
  unfold positionsOf
  constructor
  · intro h
    obtain ⟨e, he, rfl⟩ := List.mem_map.mp h
    obtain ⟨he, hlock⟩ := List.mem_filter.mp he
    exact of_decide_eq_true hlock ▸ List.mem_zipIdx_iff_getElem?.mp he
  · intro h
    exact List.mem_map.mpr ⟨(lock, i), List.mem_filter.mpr
      ⟨List.mem_zipIdx_iff_getElem?.mpr h, decide_eq_true rfl⟩, rfl⟩

theorem nodup_positionsOf : (positionsOf lock locks).Nodup := by
  have hsub : (positionsOf lock locks).Sublist (locks.zipIdx.map Prod.snd) := List.filter_sublist.map _
  rw [List.zipIdx_map_snd] at hsub
  exact (List.nodup_range' ..).sublist hsub

theorem positionsOf_append_singleton (l : Script) :
    positionsOf lock (locks ++ [l]) = positionsOf lock locks ++ if l = lock then [locks.length] else [] := by
  unfold positionsOf
  rw [List.zipIdx_append, List.filter_append, List.map_append]
  by_cases h : l = lock <;> simp [h]

theorem positionsOf_eq_nil (h : lock ∉ locks) : positionsOf lock locks = [] :=
  List.eq_nil_iff_forall_not_mem.mpr fun _ hi => h (List.mem_of_getElem? (mem_positionsOf_iff.mp hi))

/-- The first place of a lock, and its other places. -/
theorem positionsOf_eq_cons (h : lock ∈ locks) :
    ∃ others, positionsOf lock locks = locks.idxOf lock :: others := by
  induction locks using List.reverseRecOn with
  | nil => cases h
  | append_singleton ls l ih =>
    rw [positionsOf_append_singleton]
    by_cases hmem : lock ∈ ls
    · obtain ⟨others, ho⟩ := ih hmem
      rw [ho, List.idxOf_append_of_mem hmem]
      exact ⟨_, rfl⟩
    · have hl : l = lock := by simpa [hmem, eq_comm] using h
      rw [positionsOf_eq_nil hmem, if_pos hl, List.idxOf_append_of_notMem hmem, hl, List.idxOf_cons_self, Nat.add_zero]
      exact ⟨[], rfl⟩

/-! ## Groups -/

/-- The groups of some locks. -/
def groupsOf (locks : List Script) : Assoc Script (List Nat) := locks.zipIdx.foldl joinGroup []

theorem groupsOf_append_singleton (l : Script) :
    groupsOf (locks ++ [l]) = joinGroup (groupsOf locks) (l, locks.length) := by
  unfold groupsOf
  rw [List.zipIdx_append, List.foldl_append]
  simp

theorem nodup_keys_groupsOf (locks : List Script) : (groupsOf locks).keys.Nodup := by
  induction locks using List.reverseRecOn with
  | nil => exact List.nodup_nil
  | append_singleton ls l ih =>
    rw [groupsOf_append_singleton]
    exact Assoc.nodup_keys_set ih _ _

/-- The group of a lock has its places. -/
theorem get?_groupsOf (lock : Script) (locks : List Script) :
    (groupsOf locks).get? lock = if lock ∈ locks then some (positionsOf lock locks) else none := by
  induction locks using List.reverseRecOn with
  | nil => rfl
  | append_singleton ls l ih =>
    rw [groupsOf_append_singleton, joinGroup, Assoc.get?_set, positionsOf_append_singleton]
    by_cases hl : l = lock
    · subst hl
      rw [if_pos rfl, if_pos rfl, if_pos (by simp), ih]
      by_cases hmem : l ∈ ls
      · rw [if_pos hmem]
        rfl
      · rw [if_neg hmem, positionsOf_eq_nil hmem]
        rfl
    · rw [if_neg hl, if_neg hl, ih, List.append_nil]
      simp [Ne.symm hl]

theorem mem_groupsOf_iff {positions : List Nat} :
    (lock, positions) ∈ groupsOf locks ↔ lock ∈ locks ∧ positions = positionsOf lock locks := by
  rw [← Assoc.get?_eq_some_iff (nodup_keys_groupsOf locks), get?_groupsOf]
  split
  · next h => exact ⟨fun he => ⟨h, (Option.some.inj he).symm⟩, fun he => congrArg some he.2.symm⟩
  · next h => exact ⟨nofun, fun he => absurd he.1 h⟩

theorem mem_keys_groupsOf_iff : lock ∈ (groupsOf locks).keys ↔ lock ∈ locks := by
  rw [← not_iff_not, ← Assoc.get?_eq_none_iff, get?_groupsOf]
  by_cases h : lock ∈ locks <;> simp [h]

/-- The group of a lock starts where the lock first comes. -/
theorem headD_of_mem_groupsOf {positions : List Nat} (h : (lock, positions) ∈ groupsOf locks) :
    positions.headD 0 = locks.idxOf lock := by
  obtain ⟨hmem, rfl⟩ := mem_groupsOf_iff.mp h
  obtain ⟨others, ho⟩ := positionsOf_eq_cons hmem
  rw [ho]
  rfl

theorem getElem?_idxOf (h : lock ∈ locks) : locks[locks.idxOf lock]? = some lock := by
  obtain ⟨others, ho⟩ := positionsOf_eq_cons h
  exact mem_positionsOf_iff.mp (ho ▸ List.mem_cons_self)

/-- No two groups start at one place. -/
theorem pairwise_headD_groupsOf (locks : List Script) :
    (groupsOf locks).Pairwise fun g g' => g.2.headD 0 ≠ g'.2.headD 0 := by
  have hkeys : (groupsOf locks).Pairwise fun g g' => g.1 ≠ g'.1 := List.pairwise_map.mp (nodup_keys_groupsOf locks)
  refine hkeys.imp_of_mem fun {g g'} hg hg' hne heq => hne ?_
  rw [headD_of_mem_groupsOf hg, headD_of_mem_groupsOf hg'] at heq
  have hlock := getElem?_idxOf (mem_groupsOf_iff.mp hg).1
  rw [heq, getElem?_idxOf (mem_groupsOf_iff.mp hg').1] at hlock
  exact (Option.some.inj hlock).symm

theorem groups_eq (d : Draft) : d.groups = groupsOf d.locks := rfl

end CellPurse.Draft
