import CellPurse.Number.Power

/-!
# CellPurse.Number.Binary64 — the value of a double

A double is not a number, infinite, or a mantissa times a power of two.

* `Binary64.view`: which of the three, read from the bits;
* `Binary64.magnitude`: the integer part of a mantissa times a power of two;
* `Binary64.nearest`: the double nearest to a decimal.
-/

namespace CellPurse.Binary64

/-- What a double stands for. -/
inductive View where
  | nan
  | infinite (negative : Bool)
  /-- `mantissa * 2 ^ exponent` with a sign. -/
  | finite (negative : Bool) (mantissa : Nat) (exponent : Int)
  deriving DecidableEq, Repr

/-- Reads the three fields of a double. -/
def view (x : Float) : View :=
  let bits := x.toBits.toNat
  let negative : Bool := bits / 2 ^ 63 = 1
  let exponent : Nat := bits / 2 ^ 52 % 2 ^ 11
  let fraction : Nat := bits % 2 ^ 52
  if exponent = 2047 then if fraction = 0 then .infinite negative else .nan
  else if exponent = 0 then .finite negative fraction (-1074)
  else .finite negative (2 ^ 52 + fraction) ((exponent : Int) - 1075)

/-- The integer part of `mantissa * 2 ^ exponent`. -/
def magnitude (mantissa : Nat) (exponent : Int) : Nat :=
  if 0 ≤ exponent then mantissa * 2 ^ exponent.toNat else mantissa / 2 ^ (-exponent).toNat

/-- The double nearest to `± n * 10 ^ e`.  Beyond a few hundred places the exponent is as good as any larger. -/
def nearest (negative : Bool) (n : Nat) (e : Int) : Float :=
  let size : Int := (Nat.toDigits 10 n).length
  let x :=
    if n = 0 then 0.0
    else if 400 < size + e then 1.0 / 0.0
    else if size + e < -400 then 0.0
    else Float.ofScientific n (e < 0) e.natAbs
  if negative then -x else x

/-- The double is zero, of either sign. -/
def isZero (x : Float) : Bool :=
  match view x with
  | .finite _ m _ => m == 0
  | _ => false

end CellPurse.Binary64
