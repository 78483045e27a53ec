import CellPurse.Ledger.Multisig
import CellPurse.Proofs.Outcome
import Mathlib.Data.List.Nodup

/-!
# CellPurse.Proofs.Ledger.Multisig — policies that are accepted, and their bytes

* `Multisig.Valid`: what an accepted policy satisfies; `make_eq_ok_iff`: these are the accepted policies;
* `witnessData_eq_ok_iff`: the bytes of a policy; `Valid.length_witnessData`, `count_witnessData`: their number, and
  where the number of keys stands.
-/

namespace CellPurse

open Outcome

/-- Parts of one size. -/
theorem Bytes.length_flatten_of_forall {n : Nat} {parts : List Bytes} (h : ∀ p ∈ parts, p.length = n) :
    parts.flatten.length = n * parts.length := by
  induction parts with
  | nil => rfl
  | cons p r ih =>
    rw [List.flatten_cons, List.length_append, h p List.mem_cons_self, ih fun q hq => h q (List.mem_cons_of_mem _ hq),
      List.length_cons, Nat.mul_succ, Nat.add_comm]

namespace Multisig

/-- What an accepted policy satisfies. -/
structure Valid (m : Multisig) : Prop where
  keys_pos : 0 < m.keys.length
  keys_le : m.keys.length ≤ 255
  nodup : m.keys.Nodup
  size : ∀ k ∈ m.keys, k.length = System.keyHashSize
  threshold_pos : 0 < m.threshold
  threshold_le : m.threshold ≤ m.keys.length
  first_le : m.requireFirst ≤ m.threshold

theorem distinct_iff {keys : List Bytes} : distinct keys = true ↔ keys.Nodup := by
  induction keys with
  | nil => simp [distinct]
  | cons k r ih => simp [distinct, ih]

theorem make_eq_ok_iff {keys : List Bytes} {requireFirst threshold : Int} {m : Multisig} :
    make keys requireFirst threshold = .ok m ↔ m = ⟨keys, requireFirst, threshold⟩ ∧ m.Valid := by
  have hempty : keys.isEmpty = true ↔ keys.length = 0 := by rw [List.isEmpty_iff, List.length_eq_zero_iff]
  unfold make
  simp only [hempty]
  constructor
  · intro h
    cases hfind : keys.find? fun k => k.length ≠ System.keyHashSize with
    | some k =>
      rw [hfind] at h
      split_ifs at h
    | none =>
      rw [hfind] at h
      split_ifs at h with hcount hdistinct hthreshold hfirst
      cases h
      rw [not_or] at hcount
      have hnodup : distinct keys = true := by simpa using hdistinct
      have hsize := List.find?_eq_none.mp hfind
      have hpos : 0 < keys.length := Nat.pos_of_ne_zero hcount.1
      have hle : keys.length ≤ 255 := Nat.not_lt.mp hcount.2
      refine ⟨rfl, hpos, hle, distinct_iff.mp hnodup, fun k hk => ?_, hthreshold.1, hthreshold.2, Int.not_lt.mp hfirst⟩
      simpa using hsize k hk
  · rintro ⟨rfl, hm⟩
    have hpos := hm.keys_pos
    have hle := hm.keys_le
    have hfind : (keys.find? fun k => k.length ≠ System.keyHashSize) = none :=
      List.find?_eq_none.mpr fun k hk => by simpa using hm.size k hk
    have hfirst := hm.first_le
    have hthreshold := And.intro hm.threshold_pos hm.threshold_le
    dsimp only at hpos hle hfirst hthreshold
    rw [if_neg (by omega), if_neg (by simpa using distinct_iff.mpr hm.nodup), hfind]
    dsimp only
    rw [if_neg (not_not.mpr hthreshold), if_neg (by omega)]

theorem byte_eq_ok_iff {n : Int} {b : UInt8} : byte n = .ok b ↔ 0 ≤ n ∧ n < 256 ∧ b = UInt8.ofNat n.toNat := by
  unfold byte
  split_ifs with h
  · rw [Except.ok.injEq]
    exact ⟨fun hb => ⟨h.1, h.2, hb.symm⟩, fun hb => hb.2.2.symm⟩
  · simp only [false_iff]
    exact fun hb => h ⟨hb.1, hb.2.1⟩

/-- The bytes of a policy: a zero, its numbers and its keys. -/
theorem witnessData_eq_ok_iff {m : Multisig} {data : Bytes} : m.witnessData = .ok data ↔
    0 ≤ m.requireFirst ∧ m.requireFirst < 256 ∧ 0 ≤ m.threshold ∧ m.threshold < 256 ∧ m.keys.length < 256 ∧
      data = 0 :: UInt8.ofNat m.requireFirst.toNat :: UInt8.ofNat m.threshold.toNat :: UInt8.ofNat m.keys.length ::
        m.keys.flatten := by
  unfold witnessData
  simp only [bind_eq_ok_iff, byte_eq_ok_iff, pure_eq_ok_iff]
  constructor
  · rintro ⟨_, ⟨h1, h2, rfl⟩, _, ⟨h3, h4, rfl⟩, _, ⟨-, h5, rfl⟩, rfl⟩
    exact ⟨h1, h2, h3, h4, by omega, rfl⟩
  · rintro ⟨h1, h2, h3, h4, h5, rfl⟩
    exact ⟨_, ⟨h1, h2, rfl⟩, _, ⟨h3, h4, rfl⟩, _, ⟨by omega, by omega, rfl⟩, rfl⟩

section Bytes

variable {m : Multisig} {data : Bytes}

theorem Valid.length_witnessData (hm : m.Valid) (h : m.witnessData = .ok data) :
    data.length = 4 + System.keyHashSize * m.keys.length := by
  obtain ⟨-, -, -, -, -, rfl⟩ := witnessData_eq_ok_iff.mp h
  simp only [List.length_cons, Bytes.length_flatten_of_forall hm.size]
  omega

/-- The fourth byte is the number of keys. -/
theorem count_witnessData (h : m.witnessData = .ok data) (back : Bytes) :
    ((data ++ back)[3]?.map UInt8.toNat) = some m.keys.length := by
  obtain ⟨-, -, -, -, hlt, rfl⟩ := witnessData_eq_ok_iff.mp h
  simp [Nat.mod_eq_of_lt hlt]

end Bytes

end Multisig

end CellPurse
