/-!
# CellPurse.Curve.Field — numbers modulo a prime

Residues are natural numbers below the modulus.

* `Field.inverse`: by the extended Euclidean algorithm, with the remainder as measure;
* `Field.power`: by squaring, along the bits of the exponent;
* `Field.sqrt?`: a square root modulo a prime that is three modulo four.
-/

namespace CellPurse.Curve.Field

/-- Difference of residues. -/
@[inline] def sub (m a b : Nat) : Nat := (a + m - b) % m

/-- The extended Euclidean algorithm: keeps `t0 * a ≡ r0` and `t1 * a ≡ r1`. -/
def euclid (r0 r1 : Nat) (t0 t1 : Int) : Int :=
  if _h : r1 = 0 then t0 else euclid r1 (r0 % r1) t1 (t0 - (r0 / r1 : Nat) * t1)
termination_by r1
decreasing_by exact Nat.mod_lt _ (by omega)

/-- The inverse of `a`, when there is one. -/
def inverse (m a : Nat) : Nat := (euclid m (a % m) 0 1 % (m : Int)).toNat

/-- `acc * a ^ e`, along the lowest `fuel` bits of the exponent. -/
def powerLoop (m : Nat) : Nat → Nat → Nat → Nat → Nat
  | 0, _, _, acc => acc
  | fuel + 1, a, e, acc =>
    powerLoop m fuel (a * a % m) (e / 2) (if e % 2 = 1 then acc * a % m else acc)

/-- `a ^ e`. -/
def power (m a e : Nat) : Nat := powerLoop m (e.log2 + 1) (a % m) e (1 % m)

/-- A root of `a`, when `a` is a square. -/
def sqrt? (m a : Nat) : Option Nat :=
  let r := power m a ((m + 1) / 4)
  if r * r % m = a % m then some r else none

end CellPurse.Curve.Field
