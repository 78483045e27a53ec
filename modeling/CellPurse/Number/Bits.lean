import CellPurse.Number.Power

/-!
# CellPurse.Number.Bits — the bits of integers

An integer below zero has the bits of its complement turned: `-1` has them all.

* `Bits.or`: the integer with the bits of both;
* `Bits.field`: some bits of an integer, as a number.
-/

namespace CellPurse.Bits

/-- The bits of `a` that `b` has not. -/
def without (a b : Nat) : Nat := a - (a &&& b)

/-- The integer with the bits of both. -/
def or : Int → Int → Int
  | .ofNat a, .ofNat b => .ofNat (a ||| b)
  | .ofNat a, .negSucc n => .negSucc (without n a)
  | .negSucc m, .ofNat b => .negSucc (without m b)
  | .negSucc m, .negSucc n => .negSucc (m &&& n)

/-- The `width` bits of an integer from bit `start` on. -/
def field (start width : Nat) (n : Int) : Nat := (n / 2 ^ start % 2 ^ width).toNat

end CellPurse.Bits
