import CellPurse.Curve.Field

/-!
# CellPurse.Curve.Point — the curve secp256k1

Points of `y ^ 2 = x ^ 3 + 7` over the field of `Curve.prime` elements.

* `Point`: the points in affine coordinates; `Projective` ones carry a denominator and save inversions;
* `Point.base`, `Curve.order`: the generator and how many multiples it has;
* `Point.mulBase`: a multiple of the generator, one addition for each digit to base sixteen, from a table of the
  multiples `j * 16 ^ i` of the generator.
-/

namespace CellPurse.Curve

open Curve.Field

/-- The size of the field. -/
def prime : Nat := 0xFFFFFFFFFFFFFFFFFFFFFFFFFFFFFFFFFFFFFFFFFFFFFFFFFFFFFFFEFFFFFC2F

/-- The number of points. -/
def order : Nat := 0xFFFFFFFFFFFFFFFFFFFFFFFFFFFFFFFEBAAEDCE6AF48A03BBFD25E8CD0364141

/-- A point: the neutral one, or a pair of coordinates. -/
inductive Point where
  | infinity
  | affine (x y : Nat)
  deriving DecidableEq, Repr

/-- The pair satisfies the equation of the curve. -/
def onCurve (x y : Nat) : Bool := y * y % prime = (x * x % prime * x + 7) % prime

/-- The point `(x / z ^ 2, y / z ^ 3)`, neutral when `z` is zero. -/
structure Projective where
  x : Nat
  y : Nat
  z : Nat
  deriving DecidableEq, Repr

namespace Projective

/-- The neutral point. -/
def infinity : Projective := ⟨1, 1, 0⟩

/-- Twice a point. -/
def double (p : Projective) : Projective :=
  if p.z = 0 then p
  else
    let a := p.x * p.x % prime
    let b := p.y * p.y % prime
    let c := b * b % prime
    let d := 4 * (p.x * b % prime) % prime
    let e := 3 * a % prime
    let x := sub prime (e * e % prime) (2 * d % prime)
    ⟨x, sub prime (e * sub prime d x % prime) (8 * c % prime), 2 * p.y * p.z % prime⟩

/-- The sum with a point in affine coordinates. -/
def addAffine (p : Projective) (x y : Nat) : Projective :=
  if p.z = 0 then ⟨x, y, 1⟩
  else
    let zz := p.z * p.z % prime
    let u := x * zz % prime
    let s := y * (p.z * zz % prime) % prime
    let h := sub prime u p.x
    let r := sub prime s p.y
    if h = 0 then if r = 0 then double p else infinity
    else
      let hh := h * h % prime
      let hhh := h * hh % prime
      let v := p.x * hh % prime
      let x := sub prime (sub prime (r * r % prime) hhh) (2 * v % prime)
      ⟨x, sub prime (r * sub prime v x % prime) (p.y * hhh % prime), h * p.z % prime⟩

/-- The coordinates without denominator. -/
def toPoint (p : Projective) : Point :=
  if p.z = 0 then .infinity
  else
    let i := inverse prime p.z
    let ii := i * i % prime
    .affine (p.x * ii % prime) (p.y * (ii * i % prime) % prime)

/-- The sum with a point. -/
def add (p : Projective) : Point → Projective
  | .infinity => p
  | .affine x y => addAffine p x y

end Projective

namespace Point

/-- The coordinates with denominator one. -/
def toProjective : Point → Projective
  | infinity => Projective.infinity
  | affine x y => ⟨x, y, 1⟩

/-- The generator. -/
def base : Point :=
  .affine 0x79BE667EF9DCBBAC55A06295CE870B07029BFCDB2DCE28D959F2815B16F81798
    0x483ADA7726A3C4655DA4FBFC0E1108A8FD17B448A68554199C47D08FFB10D4B8

/-- The next `n` multiples of `p` after `q`. -/
def multiples (p : Point) : Nat → Projective → List Point
  | 0, _ => []
  | n + 1, q =>
    let q := q.add p
    q.toPoint :: multiples p n q

/-- Sixteen times a point. -/
def sixteenfold (p : Point) : Point :=
  p.toProjective.double.double.double.double.toPoint

/-- Rows of the multiples one to fifteen of `p`, of `16 * p`, and so on. -/
def rows : Nat → Point → List (Array Point)
  | 0, _ => []
  | n + 1, p => (multiples p 15 Projective.infinity).toArray :: rows n (sixteenfold p)

/-- The multiples `j * 16 ^ i` of the generator, for `j` from one to fifteen. -/
def table : List (Array Point) := rows 64 base

/-- Adds the multiple of each row that the next digit of `k` names. -/
def sumRows : List (Array Point) → Nat → Projective → Projective
  | [], _, acc => acc
  | row :: r, k, acc =>
    let j := k % 16
    sumRows r (k / 16) (if j = 0 then acc else acc.add (row.getD (j - 1) .infinity))

/-- `k` times the generator. -/
def mulBase (k : Nat) : Point := (sumRows table (k % order) Projective.infinity).toPoint

end Point

end CellPurse.Curve
