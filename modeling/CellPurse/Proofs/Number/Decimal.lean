import CellPurse.Number.Decimal
import Mathlib.Data.Nat.Digits.Defs
import Mathlib.Tactic.Ring

/-!
# CellPurse.Proofs.Number.Decimal — how far a product reaches

* `digitCount_eq_iff`, `digitCount_mul_pow`: the number of digits, and what powers of ten do to it;
* `Carries n`: rounding `n` to 28 digits makes it one digit longer; it makes no difference where the point stands,
  `carries_mul_pow`;
* `reach_round`: a rounded number reaches as far as the number, or one place further if it carries;
* `times?_eq_none_iff`: the products that are too large.
-/

namespace CellPurse.Decimal

/-! ## Digits -/

section Digits

variable {n k : Nat}

theorem digitCount_le_iff (hk : 0 < k) : digitCount n ≤ k ↔ n < 10 ^ k :=
  Nat.length_toDigits_le_iff (by decide) hk

theorem digitCount_pos (n : Nat) : 0 < digitCount n := Nat.length_toDigits_pos

theorem lt_pow_digitCount (n : Nat) : n < 10 ^ digitCount n := (digitCount_le_iff (digitCount_pos n)).mp le_rfl

theorem lt_digitCount_iff (hn : 0 < n) : k < digitCount n ↔ 10 ^ k ≤ n := by
  rcases Nat.eq_zero_or_pos k with rfl | hk
  · exact iff_of_true (digitCount_pos n) hn
  · rw [← Nat.not_le, digitCount_le_iff hk, Nat.not_lt]

theorem digitCount_eq_iff (hn : 0 < n) : digitCount n = k + 1 ↔ 10 ^ k ≤ n ∧ n < 10 ^ (k + 1) := by
  rw [← lt_digitCount_iff hn, ← digitCount_le_iff (Nat.succ_pos k)]
  omega

/-- Each power of ten is a digit. -/
theorem digitCount_mul_pow (hn : 0 < n) (j : Nat) : digitCount (n * 10 ^ j) = digitCount n + j := by
  obtain ⟨k, hk⟩ : ∃ k, digitCount n = k + 1 := Nat.exists_eq_succ_of_ne_zero (digitCount_pos n).ne'
  obtain ⟨hlow, hhigh⟩ := (digitCount_eq_iff hn).mp hk
  have hpos : 0 < 10 ^ j := Nat.pow_pos (by decide)
  rw [hk, Nat.add_right_comm, digitCount_eq_iff (Nat.mul_pos hn hpos)]
  constructor
  · rw [Nat.pow_add]
    exact Nat.mul_le_mul_right _ hlow
  · rw [Nat.add_right_comm, Nat.pow_add]
    exact Nat.mul_lt_mul_of_pos_right hhigh hpos

end Digits

/-! ## Rounding -/

/-- Rounded to 28 digits, a half upwards, the number is a digit longer. -/
def Carries (n : Nat) : Prop := (2 * 10 ^ precision - 1) * 10 ^ digitCount n ≤ 2 * n * 10 ^ precision

instance (n : Nat) : Decidable (Carries n) := inferInstanceAs (Decidable (_ ≤ _))

/-- Powers of ten make no difference. -/
theorem carries_mul_pow {n : Nat} (hn : 0 < n) (j : Nat) : Carries (n * 10 ^ j) ↔ Carries n := by
  have hpos : 0 < 10 ^ j := Nat.pow_pos (by decide)
  unfold Carries
  rw [digitCount_mul_pow hn, Nat.pow_add, ← Nat.mul_assoc]
  have hright : 2 * (n * 10 ^ j) * 10 ^ precision = 2 * n * 10 ^ precision * 10 ^ j := by ring
  rw [hright]
  exact Nat.mul_le_mul_right_iff hpos

/-- Nothing is rounded up to a number that has too few digits to be rounded. -/
theorem not_carries_of_le {n : Nat} (h : digitCount n ≤ precision) : ¬ Carries n := by
  unfold Carries
  have hlt := lt_pow_digitCount n
  have hle : 10 ^ digitCount n ≤ 10 ^ precision := Nat.pow_le_pow_right (by decide) h
  generalize 10 ^ digitCount n = d at hlt hle
  simp only [precision] at hle ⊢
  omega

/-- What is rounded off has 28 digits, or is the next power of ten if the number carries. -/
theorem roundOff_spec {n k : Nat} (hn : 0 < n) (hd : digitCount n = precision + k) :
    10 ^ 27 ≤ roundOff n k ∧ roundOff n k ≤ 10 ^ 28 ∧ (roundOff n k = 10 ^ 28 ↔ Carries n) := by
  have hdigits : digitCount n = 27 + k + 1 := by
    rw [hd, precision]
    omega
  obtain ⟨hlow, hhigh⟩ := (digitCount_eq_iff hn).mp hdigits
  have hcarries : Carries n ↔ (2 * 10 ^ 28 - 1) * 10 ^ k ≤ 2 * n := by
    unfold Carries
    rw [hd, precision, Nat.pow_add, Nat.mul_comm (10 ^ 28) (10 ^ k), ← Nat.mul_assoc]
    exact Nat.mul_le_mul_right_iff (by decide)
  rw [Nat.add_right_comm, Nat.pow_add] at hhigh
  rw [Nat.pow_add] at hlow
  have hpos : 0 < 10 ^ k := Nat.pow_pos (by decide)
  rw [hcarries]
  unfold roundOff
  dsimp only
  generalize 10 ^ k = d at *
  have hdiv := Nat.div_add_mod n d
  have hmod := Nat.mod_lt n hpos
  have hq : 10 ^ 27 ≤ n / d := (Nat.le_div_iff_mul_le hpos).mpr hlow
  have hq' : n / d < 10 ^ 28 := (Nat.div_lt_iff_lt_mul hpos).mpr hhigh
  generalize n / d = q at *
  generalize n % d = r at *
  -- only the greatest quotient of 28 digits, which is odd, can become the next power of ten
  rcases Nat.lt_or_ge q (10 ^ 28 - 1) with hless | hlast
  · have hle : d * q ≤ d * (10 ^ 28 - 2) := Nat.mul_le_mul_left d (by omega)
    have hnot : ¬ (2 * 10 ^ 28 - 1) * d ≤ 2 * n := by omega
    split_ifs
    · exact ⟨by omega, by omega, iff_of_false (by omega) hnot⟩
    · exact ⟨by omega, by omega, iff_of_false (by omega) hnot⟩
  · obtain rfl : q = 10 ^ 28 - 1 := by omega
    split_ifs with hup
    · exact ⟨by omega, by omega, iff_of_true rfl (by omega)⟩
    · exact ⟨by omega, by omega, iff_of_false (by decide) (by omega)⟩

/-! ## Reach -/

/-- How many places before the point a number at an exponent takes. -/
def reach (n : Nat) (e : Int) : Int := e + digitCount n

/-- A rounded number reaches as far as the number, or one place further if it carries. -/
theorem reach_round {n : Nat} (hn : 0 < n) (e : Int) :
    (round n e).1 ≠ 0 ∧ reach (round n e).1 (round n e).2 = reach n e + if Carries n then 1 else 0 := by
  unfold round reach
  dsimp only
  by_cases hshort : digitCount n ≤ precision
  · rw [if_pos hshort, if_neg (not_carries_of_le hshort)]
    refine ⟨hn.ne', ?_⟩
    dsimp only
    omega
  · rw [if_neg hshort]
    obtain ⟨k, hk⟩ : ∃ k, digitCount n = precision + k := ⟨digitCount n - precision, by omega⟩
    have hsub : digitCount n - precision = k := by omega
    obtain ⟨hlow, hhigh, hcarry⟩ := roundOff_spec hn hk
    rw [hsub]
    generalize roundOff n k = q at *
    by_cases hc : Carries n
    · obtain rfl := hcarry.mpr hc
      have hlong : ¬ digitCount (10 ^ 28) ≤ precision := by decide
      have htenth : digitCount (10 ^ 28 / 10) = 28 := by decide
      rw [if_neg hlong, if_pos hc]
      refine ⟨Nat.ne_of_gt (Nat.div_pos (by decide) (by decide)), ?_⟩
      dsimp only
      rw [htenth, hk, precision]
      omega
    · have hlt : q < 10 ^ 28 := lt_of_le_of_ne hhigh (mt hcarry.mp hc)
      have hdigits : digitCount q = 27 + 1 := (digitCount_eq_iff (by omega)).mpr ⟨hlow, hlt⟩
      have hfits : digitCount q ≤ precision := by
        rw [hdigits]
        decide
      rw [if_pos hfits, if_neg hc]
      refine ⟨by omega, ?_⟩
      dsimp only
      rw [hdigits, hk, precision]
      omega

/-- The products that are too large. -/
theorem times?_eq_none_iff {c factor : Nat} {e : Int} (hc : 0 < c * factor) :
    times? c e factor = none ↔
      greatestPlace + 1 < reach (c * factor) e + if Carries (c * factor) then 1 else 0 := by
  obtain ⟨hne, hreach⟩ := reach_round hc e
  unfold times?
  generalize round (c * factor) e = rounded at hne hreach ⊢
  obtain ⟨c', e'⟩ := rounded
  unfold reach at hreach ⊢
  dsimp only at hne hreach ⊢
  rw [← hreach, ite_eq_left_iff]
  simp only [reduceCtorEq, imp_false, not_not]
  constructor
  · rintro ⟨-, h⟩
    omega
  · intro h
    exact ⟨hne, by omega⟩

/-- A number reaches beyond a place, perhaps by a carry, if but for half a unit of the last digit that is kept it is at
least the power of ten there. -/
theorem lt_reach_iff {n place : Nat} (hn : 0 < n) (hp : precision ≤ place) :
    (place : Int) < digitCount n + (if Carries n then 1 else 0) ↔
      2 * 10 ^ place ≤ 2 * n + 10 ^ (place - precision) := by
  obtain ⟨k, rfl⟩ : ∃ k, place = precision + k := ⟨place - precision, by omega⟩
  rw [Nat.add_sub_cancel_left]
  have hpow : 10 ^ (precision + k) = 10 ^ 28 * 10 ^ k := Nat.pow_add ..
  rcases Nat.lt_trichotomy (digitCount n) (precision + k) with h | h | h
  · have hlow : n * 10 < 10 ^ (precision + k) := by
      obtain ⟨j, hj⟩ : ∃ j, precision + k = j + 1 := ⟨precision + k - 1, by simp only [precision]; omega⟩
      have hj' : digitCount n ≤ j := by omega
      have hjpos : 0 < j := by
        simp only [precision] at hj
        omega
      rw [hj, Nat.pow_succ]
      exact Nat.mul_lt_mul_of_pos_right ((digitCount_le_iff hjpos).mp hj') (by decide)
    rw [hpow] at hlow ⊢
    generalize 10 ^ k = d at *
    split_ifs
    · exact iff_of_false (by omega) (by omega)
    · exact iff_of_false (by omega) (by omega)
  · have hcarries : Carries n ↔ 2 * 10 ^ (precision + k) ≤ 2 * n + 10 ^ k := by
      unfold Carries
      rw [h, hpow, precision, Nat.mul_comm (10 ^ 28) (10 ^ k), ← Nat.mul_assoc,
        Nat.mul_le_mul_right_iff (by decide)]
      generalize 10 ^ k = d
      omega
    rw [← hcarries, h]
    split_ifs with hc
    · exact iff_of_true (by omega) hc
    · exact iff_of_false (by omega) hc
  · have hle : 10 ^ (precision + k) ≤ n := (lt_digitCount_iff hn).mp h
    split_ifs
    · exact iff_of_true (by omega) (by omega)
    · exact iff_of_true (by omega) (by omega)

end CellPurse.Decimal
