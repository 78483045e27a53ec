import CellPurse.Number.Binary64

/-!
# CellPurse.Number.Shortest — the shortest text of a double

The text of a finite double has the fewest digits that read back as the double; of those with that many digits the
nearest is taken, and a tie goes to the even digit.

* `Shortest.digits`: the digits and the place of the point, by exact arithmetic on the two neighbours of the value on
  each decimal grid;
* `Shortest.Style`: where the point stands and when an exponent is written;
* `Shortest.text`: the text of a double in a style.
-/

namespace CellPurse.Shortest

/-! ## Digits -/

/-- The `p` with `10 ^ p ≤ n / d < 10 ^ (p + 1)`, for positive `n` and `d`, searched within `fuel` steps below zero. -/
def exponent10 (fuel n d : Nat) : Int :=
  if d ≤ n then (Nat.toDigits 10 (n / d)).length - 1
  else match fuel with
    | 0 => 0
    | fuel + 1 => exponent10 fuel (10 * n) d - 1

/-- The interval of numbers that read as one double, in units of `unitNum / unitDen`. -/
structure Interval where
  low : Nat
  value : Nat
  high : Nat
  closed : Bool
  unitNum : Nat
  unitDen : Nat

/-- The numbers that read as `m * 2 ^ e`: half a step to both sides, a quarter below a power of two. -/
def interval (m : Nat) (e : Int) : Interval :=
  let below := if m = 2 ^ 52 ∧ -1074 < e then 1 else 2
  ⟨4 * m - below, 4 * m, 4 * m + 2, m % 2 = 0, 2 ^ (e - 2).toNat, 2 ^ (2 - e).toNat⟩

/-- `c * 10 ^ s` lies in the interval. -/
def Interval.holds (i : Interval) (c : Nat) (s : Int) : Bool :=
  let x := c * 10 ^ s.toNat * i.unitDen
  let scale := 10 ^ (-s).toNat * i.unitNum
  let lo := i.low * scale
  let hi := i.high * scale
  if i.closed then lo ≤ x && x ≤ hi else lo < x && x < hi

/-- The better of the two neighbours of the value on the grid of step `10 ^ s`, if one lies in the interval. -/
def Interval.onGrid (i : Interval) (s : Int) : Option Nat :=
  let num := i.value * i.unitNum * 10 ^ (-s).toNat
  let den := i.unitDen * 10 ^ s.toNat
  let c := num / den
  let twice := 2 * (num - c * den)
  let first := if twice < den ∨ (twice = den ∧ c % 2 = 0) then c else c + 1
  let second := if first = c then c + 1 else c
  if i.holds first s then some first else if i.holds second s then some second else none

/-- The first grid with a hit, from one digit on. -/
def search (i : Interval) (p : Int) : Nat → Nat → Nat × Int
  | 0, k => (i.value * i.unitNum / i.unitDen, p - k)
  | fuel + 1, k =>
    match i.onGrid (p - k) with
    | some c => (c, p - k)
    | none => search i p fuel (k + 1)

/-- Drops trailing zeros. -/
def dropZeros (ds : List Char) : List Char := (ds.reverse.dropWhile (· = '0')).reverse

/-- The digits of `m * 2 ^ e`, and how many of them stand before the point. -/
def digits (m : Nat) (e : Int) : List Char × Int :=
  let i := interval m e
  let p := exponent10 400 (i.value * i.unitNum) i.unitDen
  let (c, s) := search i p 17 0
  let ds := Nat.toDigits 10 c
  (dropZeros ds, ds.length + s)

/-! ## Texts -/

/-- How a double is written. -/
structure Style where
  /-- An exponent is written when the point stands at or before this place. -/
  leastPoint : Int
  /-- An exponent is written when the point stands after this place. -/
  greatestPoint : Int
  /-- Digits of the exponent, at least. -/
  exponentWidth : Nat
  nan : String
  infinity : String

/-- Positional from `0.0001` to below `10 ^ 16`, two digits in an exponent. -/
def plain : Style := ⟨-4, 16, 2, "nan", "inf"⟩

/-- The text of an exponent. -/
def exponentText (style : Style) (e : Int) : List Char :=
  let ds := Nat.toDigits 10 e.natAbs
  'e' :: (if e < 0 then '-' else '+') :: List.replicate (style.exponentWidth - ds.length) '0' ++ ds

/-- Digits `ds` with the point after the first `point` of them. -/
def place (style : Style) (ds : List Char) (point : Int) : List Char :=
  if point ≤ style.leastPoint ∨ style.greatestPoint < point then
    match ds with
    | [] => []
    | [d] => d :: exponentText style (point - 1)
    | d :: r => d :: '.' :: r ++ exponentText style (point - 1)
  else if point ≤ 0 then '0' :: '.' :: List.replicate (-point).toNat '0' ++ ds
  else
    let n := point.toNat
    let whole := ds.take n ++ List.replicate (n - ds.length) '0'
    let rest := ds.drop n
    whole ++ '.' :: (if rest.isEmpty then ['0'] else rest)

/-- The text of a double. -/
def text (style : Style) (x : Float) : String :=
  let signed (negative : Bool) (cs : List Char) := String.ofList (if negative then '-' :: cs else cs)
  match Binary64.view x with
  | .nan => style.nan
  | .infinite negative => signed negative style.infinity.toList
  | .finite negative 0 _ => signed negative ['0', '.', '0']
  | .finite negative m e =>
    let (ds, point) := digits m e
    signed negative (place style ds point)

end CellPurse.Shortest
