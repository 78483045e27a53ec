import CellPurse.Epoch.Since
import Mathlib.Data.Nat.Bitwise

/-!
# CellPurse.Proofs.Epoch.Since — time locks in 64 bits

* `Bits.testBit_field`: the bits of a field are bits of the number; `Bits.field_eq_zero_iff`: a field without bits;
* `Since.Malformed raw`: a reserved bit is set, or both bits of the metric;
* `Since.decode_eq_ok_iff`, `Since.exists_decode_iff`: what a packed form is read as, and when it is read;
* `Since.encode_of_decode`, `Since.decode_encode`: both directions undo each other.
-/

namespace CellPurse

namespace Bits

/-! ## Fields of a number -/

variable {start width n : Nat}

theorem field_natCast (start width n : Nat) : field start width n = n / 2 ^ start % 2 ^ width := by
  unfold field
  norm_cast

theorem testBit_field (i : Nat) : (field start width n).testBit i = (decide (i < width) && n.testBit (start + i)) := by
  rw [field_natCast, Nat.testBit_mod_two_pow, Nat.testBit_div_two_pow, Nat.add_comm i]

theorem field_eq_zero_iff : field start width n = 0 ↔ ∀ i, start ≤ i → i < start + width → n.testBit i = false := by
  constructor
  · intro h i hlow hhigh
    have hbit : (field start width n).testBit (i - start) =
        (decide (i - start < width) && n.testBit (start + (i - start))) := testBit_field (i - start)
    have hplace : start + (i - start) = i := by omega
    have hin : i - start < width := by omega
    rw [h, hplace, decide_eq_true hin, Bool.true_and, Nat.zero_testBit] at hbit
    exact hbit.symm
  · intro h
    refine Nat.eq_of_testBit_eq fun i => ?_
    rw [testBit_field, Nat.zero_testBit]
    by_cases hin : i < width
    · simp [h (start + i) (by omega) (by omega)]
    · simp [hin]

/-- A field of one bit. -/
theorem field_one (start n : Nat) : field start 1 n = (n.testBit start).toNat := by
  rw [field_natCast, Nat.testBit_eq_decide_div_mod_eq]
  have hlt : n / 2 ^ start % 2 < 2 := Nat.mod_lt _ (by decide)
  by_cases h : n / 2 ^ start % 2 = 1
  · simp [h]
  · have hzero : n / 2 ^ start % 2 = 0 := by omega
    simp [hzero]

/-- A field of two bits. -/
theorem field_two (start n : Nat) :
    field start 2 n = (n.testBit start).toNat + 2 * (n.testBit (start + 1)).toNat := by
  have hlow := field_one start n
  have hhigh := field_one (start + 1) n
  have hnext : n / 2 ^ (start + 1) = n / 2 ^ start / 2 := by rw [Nat.pow_succ, Nat.div_div_eq_div_mul]
  rw [field_natCast] at hlow hhigh ⊢
  rw [← hlow, ← hhigh, hnext]
  generalize n / 2 ^ start = m
  omega

end Bits

theorem Metric.ofNat?_eq_some_iff {n : Nat} {m : Metric} : Metric.ofNat? n = some m ↔ n = m.toNat := by
  constructor
  · intro h
    unfold Metric.ofNat? at h
    split at h <;> cases h <;> rfl
  · rintro rfl
    exact Metric.ofNat?_toNat m

theorem Metric.toNat_inj {m m' : Metric} : m.toNat = m'.toNat ↔ m = m' := by
  rw [← Metric.ofNat?_eq_some_iff, Metric.ofNat?_toNat, Option.some.injEq]

namespace Since

open Bits

/-- A reserved bit is set, or both bits of the metric are, which no metric has. -/
def Malformed (raw : Nat) : Prop :=
  (∃ i, 56 ≤ i ∧ i ≤ 60 ∧ raw.testBit i = true) ∨ (raw.testBit 61 = true ∧ raw.testBit 62 = true)

variable {raw : Nat} {s : Since}

theorem reserved_iff : field 56 5 raw ≠ 0 ↔ ∃ i, 56 ≤ i ∧ i ≤ 60 ∧ raw.testBit i = true := by
  rw [ne_eq, field_eq_zero_iff]
  constructor
  · intro h
    by_contra hnone
    refine h fun i hlow hhigh => ?_
    by_contra hset
    exact hnone ⟨i, hlow, by omega, by simpa using hset⟩
  · rintro ⟨i, hlow, hhigh, hset⟩ h
    rw [h i hlow (by omega)] at hset
    cases hset

/-- The numbers of metrics are those below three. -/
theorem exists_metric_iff : (∃ m : Metric, field 61 2 raw = m.toNat) ↔
    ¬ (raw.testBit 61 = true ∧ raw.testBit 62 = true) := by
  rw [field_two]
  cases raw.testBit 61 <;> cases raw.testBit 62
  · exact iff_of_true ⟨.blockNumber, rfl⟩ (by simp)
  · exact iff_of_true ⟨.timestamp, rfl⟩ (by simp)
  · exact iff_of_true ⟨.epochNumber, rfl⟩ (by simp)
  · refine iff_of_false ?_ (by simp)
    rintro ⟨m, hm⟩
    cases m <;> cases hm

/-- What a packed form is read as: its reserved bits are clear, its two bits are those of the metric, its highest bit
makes it relative, and the lowest 56 are the value. -/
theorem decode_eq_ok_iff : decode raw = .ok s ↔ field 56 5 raw = 0 ∧ field 61 2 raw = s.metric.toNat ∧
    s.relative = raw.testBit 63 ∧ s.value = (raw % 2 ^ 56 : Nat) := by
  have hrelative : decide (field 63 1 raw ≠ 0) = raw.testBit 63 := by
    rw [field_one]
    cases raw.testBit 63 <;> rfl
  have hvalue : field 0 56 raw = raw % 2 ^ 56 := by rw [field_natCast, Nat.pow_zero, Nat.div_one]
  unfold decode
  rw [hrelative, hvalue]
  by_cases hreserved : field 56 5 raw = 0
  · rw [if_neg (not_not.mpr hreserved)]
    cases hmetric : Metric.ofNat? (field 61 2 raw) with
    | none =>
      refine iff_of_false nofun fun h => ?_
      rw [Metric.ofNat?_eq_some_iff.mpr h.2.1] at hmetric
      cases hmetric
    | some m =>
      rw [Metric.ofNat?_eq_some_iff.mp hmetric]
      obtain ⟨relative, metric, value⟩ := s
      simp only [Except.ok.injEq, Since.mk.injEq, hreserved, true_and, Metric.toNat_inj]
      constructor
      · rintro ⟨rfl, rfl, rfl⟩
        exact ⟨rfl, rfl, rfl⟩
      · rintro ⟨rfl, rfl, rfl⟩
        exact ⟨rfl, rfl, rfl⟩
  · rw [if_pos hreserved]
    exact iff_of_false nofun fun h => hreserved h.1

/-- A packed form is read unless it is malformed. -/
theorem exists_decode_iff : (∃ s, decode raw = .ok s) ↔ ¬ Malformed raw := by
  unfold Malformed
  rw [not_or, ← reserved_iff, not_not, ← exists_metric_iff]
  constructor
  · rintro ⟨s, h⟩
    obtain ⟨hreserved, hmetric, -⟩ := decode_eq_ok_iff.mp h
    exact ⟨hreserved, s.metric, hmetric⟩
  · rintro ⟨hreserved, m, hmetric⟩
    exact ⟨⟨raw.testBit 63, m, (raw % 2 ^ 56 : Nat)⟩, decode_eq_ok_iff.mpr ⟨hreserved, hmetric, rfl, rfl⟩⟩

/-- What was read is packed as it was, in 64 bits. -/
theorem encode_of_decode (hraw : raw < 2 ^ 64) (h : decode raw = .ok s) :
    s.encode = raw ∧ 0 ≤ s.value ∧ s.value < 2 ^ 56 := by
  obtain ⟨hreserved, hmetric, hrelative, hvalue⟩ := decode_eq_ok_iff.mp h
  have hbit := field_one 63 raw
  rw [field_natCast] at hreserved hmetric hbit
  have hfield : field 0 56 s.value = raw % 2 ^ 56 := by
    rw [hvalue, field_natCast]
    omega
  unfold encode
  rw [hfield, ← hmetric, hrelative]
  refine ⟨?_, by omega, by omega⟩
  cases hset : raw.testBit 63
  · simp [hset] at hbit ⊢
    omega
  · simp [hset] at hbit ⊢
    omega

/-- What is packed is read again, if the value has 56 bits. -/
theorem decode_encode (hlow : 0 ≤ s.value) (hhigh : s.value < 2 ^ 56) :
    s.encode < 2 ^ 64 ∧ decode s.encode = .ok s := by
  obtain ⟨relative, metric, value⟩ := s
  obtain ⟨v, rfl⟩ := Int.eq_ofNat_of_zero_le hlow
  have hv : v < 2 ^ 56 := Int.ofNat_lt.mp hhigh
  have hm := metric.toNat_lt
  have hr := Bool.toNat_lt relative
  have hencode : encode ⟨relative, metric, v⟩ = relative.toNat * 2 ^ 63 + metric.toNat * 2 ^ 61 + v := by
    have hfield : field 0 56 v = v := by rw [field_natCast, Nat.pow_zero, Nat.div_one, Nat.mod_eq_of_lt hv]
    unfold encode
    cases relative <;> simp [hfield]
  have hhighest : relative = (encode ⟨relative, metric, v⟩).testBit 63 := by
    rw [hencode, Nat.testBit_eq_decide_div_mod_eq]
    cases relative with
    | false => exact (decide_eq_false (by simp only [Bool.toNat_false]; omega)).symm
    | true => exact (decide_eq_true (by simp only [Bool.toNat_true]; omega)).symm
  rw [decode_eq_ok_iff, field_natCast, field_natCast]
  dsimp only
  refine ⟨by omega, by omega, by omega, hhighest, ?_⟩
  rw [hencode]
  omega

end Since

end CellPurse
