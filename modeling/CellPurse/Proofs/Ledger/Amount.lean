import CellPurse.Ledger.Amount
import CellPurse.Proofs.Number.Decimal

/-!
# CellPurse.Proofs.Ledger.Amount — texts of amounts

* `Amount.shannons`: what a decimal number of coins is worth;
* `Amount.IsUnbounded text`: the text denotes a number of shannons with more than a million digits;
  `parse_eq_unbounded_iff`: these are the texts whose product with a coin is too large.
-/

namespace CellPurse.Amount

open Decimal

/-- The shannons of `coefficient * 10 ^ exponent` coins. -/
def shannons (coefficient : Nat) (exponent : Int) : Nat := coefficient * 10 ^ (exponent + maxDecimals).toNat

/-- How many digits a product may have. -/
def mostDigits : Nat := 1000000

/-- The text denotes a number of shannons with more digits than a product may have; the 28th digit is rounded. -/
def IsUnbounded (text : String) : Prop :=
  ∃ c e, Decimal.parse? (Text.Blank.trim text) = some (.finite false c e) ∧ -(maxDecimals : Int) ≤ e ∧
    2 * 10 ^ mostDigits ≤ 2 * shannons c e + 10 ^ (mostDigits - precision)

/-- A number of coins, as the product with a coin, takes as many places as its shannons. -/
theorem reach_coin {c : Nat} {e : Int} (hc : 0 < c) (he : -(maxDecimals : Int) ≤ e) :
    reach (c * coin) e = digitCount (shannons c e) := by
  have hcoin : c * coin = c * 10 ^ 8 := rfl
  unfold reach shannons
  rw [hcoin, digitCount_mul_pow hc, digitCount_mul_pow hc]
  simp only [maxDecimals] at he ⊢
  omega

theorem times?_coin_eq_none_iff {c : Nat} {e : Int} (he : -(maxDecimals : Int) ≤ e) :
    times? c e coin = none ↔ 2 * 10 ^ mostDigits ≤ 2 * shannons c e + 10 ^ (mostDigits - precision) := by
  rcases Nat.eq_zero_or_pos c with rfl | hc
  · have hzero : times? 0 e coin = some (0, e) := by
      unfold times?
      rw [Nat.zero_mul]
      rfl
    have hsmall : 10 ^ (mostDigits - precision) < 10 ^ mostDigits := Nat.pow_lt_pow_right (by decide) (by decide)
    rw [hzero, shannons, Nat.zero_mul]
    exact iff_of_false nofun (by omega)
  · have hcoin : c * coin = c * 10 ^ 8 := rfl
    have hpos : 0 < shannons c e := Nat.mul_pos hc (Nat.pow_pos (by decide))
    have hcarries : Carries (c * coin) ↔ Carries (shannons c e) := by
      rw [hcoin, shannons, carries_mul_pow hc, carries_mul_pow hc]
    have hplace : greatestPlace + 1 = (mostDigits : Int) := rfl
    rw [times?_eq_none_iff (Nat.mul_pos hc (by decide)), reach_coin hc he, hplace, if_congr hcarries rfl rfl]
    exact lt_reach_iff hpos (by decide)

theorem parse_eq_unbounded_iff {text : String} : parse text = .error .unbounded ↔ IsUnbounded text := by
  unfold parse IsUnbounded
  dsimp only
  cases hd : Decimal.parse? (Text.Blank.trim text) with
  | none => exact ⟨nofun, nofun⟩
  | some d =>
    cases d with
    | notNumber negative => exact ⟨nofun, nofun⟩
    | infinite negative => exact ⟨nofun, nofun⟩
    | finite negative c e =>
      dsimp only
      split_ifs with hnegative hdecimals
      · refine ⟨nofun, ?_⟩
        rintro ⟨c', e', hc, -⟩
        cases hc
        cases hnegative.1
      · refine ⟨nofun, ?_⟩
        rintro ⟨c', e', hc, he, -⟩
        cases hc
        omega
      · have he : -(maxDecimals : Int) ≤ e := Int.not_lt.mp hdecimals
        have htoo := times?_coin_eq_none_iff (c := c) he
        constructor
        · intro h
          split at h
          · next hnone =>
            have hlarge := htoo.mp hnone
            have hc : c ≠ 0 := by
              rintro rfl
              cases hnone
            have hpositive : negative = false := by
              simpa [hc] using hnegative
            exact ⟨c, e, by rw [hpositive], he, hlarge⟩
          · split at h
            · cases h
            · cases h
        · rintro ⟨c', e', hc, -, hlarge⟩
          cases hc
          rw [htoo.mpr hlarge]

end CellPurse.Amount
