import CellPurse.Number.Power

/-!
# CellPurse.Bytes.Basic — byte strings

A byte string is a list of bytes.  This module holds its numbers and its order:

* `Bytes.ofNatLE w n`, `Bytes.ofNatBE w n`: the `w` bytes of `n` modulo `256 ^ w`, low byte first and high byte first;
* `Bytes.toNatLE`, `Bytes.toNatBE`: the number that the bytes spell, so `toNatLE (ofNatLE w n) = n % 256 ^ w`;
* `Bytes.ble`: the dictionary order, a shorter string before its extensions.
-/

namespace CellPurse

/-- A byte string. -/
abbrev Bytes := List UInt8

namespace Bytes

/-- `n` bytes of zero. -/
def zeros (n : Nat) : Bytes := List.replicate n 0

/-! ## Numbers -/

/-- The number spelled by the bytes, low byte first. -/
def toNatLE : Bytes → Nat
  | [] => 0
  | b :: r => b.toNat + 256 * toNatLE r

/-- The lowest `w` bytes of `n`, low byte first. -/
def ofNatLE : Nat → Nat → Bytes
  | 0, _ => []
  | w + 1, n => UInt8.ofNat n :: ofNatLE w (n / 256)

/-- The number spelled by the bytes, high byte first. -/
def toNatBE (b : Bytes) : Nat := b.foldl (fun n d => 256 * n + d.toNat) 0

/-- The lowest `w` bytes of `n`, high byte first. -/
def ofNatBE (w n : Nat) : Bytes := (ofNatLE w n).reverse

@[simp] theorem length_ofNatLE (w n : Nat) : (ofNatLE w n).length = w := by
  induction w generalizing n with
  | zero => rfl
  | succ w ih => simp [ofNatLE, ih]

@[simp] theorem length_ofNatBE (w n : Nat) : (ofNatBE w n).length = w := by simp [ofNatBE]

@[simp] theorem length_zeros (n : Nat) : (zeros n).length = n := by simp [zeros]

theorem toNatLE_ofNatLE (w n : Nat) : toNatLE (ofNatLE w n) = n % 256 ^ w := by
  induction w generalizing n with
  | zero => simp [ofNatLE, toNatLE, Nat.mod_one]
  | succ w ih =>
    have low : (UInt8.ofNat n).toNat = n % 256 := by simp
    rw [ofNatLE, toNatLE, ih, low, Nat.pow_succ, Nat.mul_comm (256 ^ w) 256, Nat.mod_mul]

theorem toNatLE_lt (b : Bytes) : toNatLE b < 256 ^ b.length := by
  induction b with
  | nil => simp [toNatLE]
  | cons d r ih =>
    have := d.toNat_lt
    simp only [toNatLE, List.length_cons, Nat.pow_succ]
    omega

/-! ## Order -/

/-- Dictionary order: the first differing byte decides, and a string comes before its extensions. -/
def ble : Bytes → Bytes → Bool
  | [], _ => true
  | _ :: _, [] => false
  | a :: r, b :: s => if a = b then ble r s else a < b

end Bytes

end CellPurse
