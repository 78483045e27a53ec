import CellPurse.Assoc
import Mathlib.Algebra.Ring.Nat
import Mathlib.Data.List.Nodup

/-!
# CellPurse.Proofs.Assoc — keys and entries

* `keys_set`: a new key comes last;
* `get?_eq_some_iff`: where no key comes twice, the entries are what is found;
* `sum_set`: among numbers, a new value takes the place of the old one in the sum.
-/

namespace CellPurse.Assoc

variable {κ α : Type} [DecidableEq κ]

theorem get?_eq_none_iff {k : κ} {m : Assoc κ α} : get? k m = none ↔ k ∉ keys m := by
  induction m with
  | nil => simp [get?, keys]
  | cons e r ih =>
    obtain ⟨j, a⟩ := e
    by_cases hj : j = k
    · simp [get?, keys, hj]
    · simp only [get?, hj, if_false, ih, keys, List.map_cons, List.mem_cons, not_or]
      exact ⟨fun h => ⟨Ne.symm hj, h⟩, And.right⟩

theorem mem_of_get?_eq_some {k : κ} {a : α} {m : Assoc κ α} (h : get? k m = some a) : (k, a) ∈ m := by
  induction m with
  | nil => cases h
  | cons e r ih =>
    obtain ⟨j, b⟩ := e
    rw [get?] at h
    split_ifs at h with hj
    · cases h
      exact hj ▸ List.mem_cons_self
    · exact List.mem_cons_of_mem _ (ih h)

theorem get?_eq_some_iff {m : Assoc κ α} (hm : (keys m).Nodup) {k : κ} {a : α} : get? k m = some a ↔ (k, a) ∈ m := by
  refine ⟨mem_of_get?_eq_some, fun h => ?_⟩
  induction m with
  | nil => cases h
  | cons e r ih =>
    obtain ⟨j, b⟩ := e
    obtain ⟨hj, hr⟩ := List.nodup_cons.mp hm
    rcases List.mem_cons.mp h with he | h
    · cases he
      exact if_pos rfl
    · have hne : j ≠ k := fun hjk => hj (List.mem_map.mpr ⟨(k, a), h, hjk.symm⟩)
      rw [get?, if_neg hne]
      exact ih hr h

theorem keys_set (k : κ) (a : α) (m : Assoc κ α) :
    keys (set k a m) = if k ∈ keys m then keys m else keys m ++ [k] := by
  induction m with
  | nil => simp [set, keys]
  | cons e r ih =>
    obtain ⟨j, b⟩ := e
    by_cases hj : j = k
    · simp [set, keys, hj]
    · have hkeys : keys (set k a ((j, b) :: r)) = j :: keys (set k a r) := by simp [set, keys, hj]
      have hmem : k ∈ keys ((j, b) :: r) ↔ k ∈ keys r := by simp [keys, Ne.symm hj]
      rw [hkeys, ih]
      simp only [hmem]
      split
      · rfl
      · rfl

/-- What is set last stays. -/
theorem set_set (k : κ) (a b : α) (m : Assoc κ α) : set k b (set k a m) = set k b m := by
  induction m with
  | nil => simp [set]
  | cons e r ih =>
    obtain ⟨j, c⟩ := e
    by_cases hj : j = k
    · simp [set, hj]
    · simp [set, hj, ih]

theorem nodup_keys_set {m : Assoc κ α} (hm : (keys m).Nodup) (k : κ) (a : α) : (keys (set k a m)).Nodup := by
  rw [keys_set]
  split
  · exact hm
  · next hk => exact List.nodup_append.mpr ⟨hm, List.nodup_singleton k, fun x hx y hy hxy =>
      hk (List.mem_singleton.mp hy ▸ hxy ▸ hx)⟩

/-- The sum of all numbers is less by the old one and more by the new one. -/
theorem sum_set (k : κ) (n : Nat) (m : Assoc κ Nat) :
    ((set k n m).map Prod.snd).sum + (get? k m).getD 0 = (m.map Prod.snd).sum + n := by
  induction m with
  | nil => simp [set, get?]
  | cons e r ih =>
    obtain ⟨j, b⟩ := e
    by_cases hj : j = k
    · simp only [set, get?, hj, if_true, List.map_cons, List.sum_cons, Option.getD_some]
      omega
    · simp only [set, get?, hj, if_false, List.map_cons, List.sum_cons]
      omega

end CellPurse.Assoc
