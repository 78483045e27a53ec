import CellPurse.Number.Power
import CellPurse.Text.Blank
import CellPurse.Text.Digit

/-!
# CellPurse.Number.Decimal — decimal texts

A decimal text is a sign, digits with a point among them, and an exponent after `e`; underscores are dropped and
digits of every script count.  The words for infinity and for not a number are decimal texts too.

* `Decimal.parse?`: the value of a text;
* `Decimal.round`: a coefficient rounded to 28 digits, a half to the even side;
* `Decimal.times?`: a product so rounded, unless its leading digit stands above place 999999.
-/

namespace CellPurse

open Text

/-- What a decimal text denotes. -/
inductive Decimal where
  | notNumber (negative : Bool)
  | infinite (negative : Bool)
  /-- `coefficient * 10 ^ exponent` with a sign. -/
  | finite (negative : Bool) (coefficient : Nat) (exponent : Int)
  deriving DecidableEq, Repr

namespace Decimal

/-! ## Reading -/

/-- The sign, true when negative, and the rest. -/
def sign : List Char → Bool × List Char
  | '-' :: r => (true, r)
  | '+' :: r => (false, r)
  | cs => (false, cs)

/-- The least exponent of a decimal. -/
def leastExponent : Int := -1999999999999999997

/-- The highest place of the leading digit of a decimal. -/
def greatestExponent : Int := 999999999999999999

/-- How many digits a number has; zero has one. -/
def digitCount (n : Nat) : Nat := (Nat.toDigits 10 n).length

/-- What an exponent text says; nothing stands for none. -/
def exponent? : List Char → Option Int
  | [] => some 0
  | e :: r =>
    if e = 'e' ∨ e = 'E' then
      let (negative, ds) := sign r
      if ds.isEmpty ∨ !ds.all Digit.isAscii then none
      else some (if negative then -(Digit.natOf ds : Int) else Digit.natOf ds)
    else none

/-- The value of digits, a point and an exponent. -/
def finite? (negative : Bool) (cs : List Char) : Option Decimal :=
  let whole := cs.takeWhile Digit.isAscii
  let r := cs.dropWhile Digit.isAscii
  let (fraction, r) := match r with
    | '.' :: r' => (r'.takeWhile Digit.isAscii, r'.dropWhile Digit.isAscii)
    | _ => ([], r)
  if whole.isEmpty ∧ fraction.isEmpty then none
  else do
    let e := (← exponent? r) - fraction.length
    let c := Digit.natOf (whole ++ fraction)
    if e < leastExponent ∨ greatestExponent < e + digitCount c - 1 then none
    else pure (.finite negative c e)

/-- The value of a word. -/
def word? (negative : Bool) (cs : List Char) : Option Decimal :=
  let lower := String.ofList (cs.map Char.toLower)
  if lower = "inf" ∨ lower = "infinity" then some (.infinite negative)
  else
    let rest :=
      if lower.startsWith "snan" then some (cs.drop 4)
      else if lower.startsWith "nan" then some (cs.drop 3)
      else none
    match rest with
    | some ds => if ds.all Digit.isAscii then some (.notNumber negative) else none
    | none => none

/-- The value of a decimal text. -/
def parse? (s : String) : Option Decimal :=
  let cs := (Blank.trimList Blank.isBlank s.toList).filter (· ≠ '_')
  let (negative, r) := sign (cs.map Digit.plain)
  (finite? negative r).or (word? negative r)

/-! ## Products -/

/-- How many digits a product keeps. -/
def precision : Nat := 28

/-- The highest place of the leading digit of a product. -/
def greatestPlace : Int := 999999

/-- The quotient by `10 ^ k`, a half to the even side. -/
def roundOff (n k : Nat) : Nat :=
  let d := 10 ^ k
  let q := n / d
  let twice := 2 * (n % d)
  if d < twice ∨ (twice = d ∧ q % 2 = 1) then q + 1 else q

/-- A coefficient at an exponent, rounded to as many digits as a product keeps. -/
def round (coefficient : Nat) (exponent : Int) : Nat × Int :=
  let n := digitCount coefficient
  if n ≤ precision then (coefficient, exponent)
  else
    let k := n - precision
    let q := roundOff coefficient k
    if digitCount q ≤ precision then (q, exponent + k) else (q / 10, exponent + k + 1)

/-- The rounded product of `coefficient * 10 ^ exponent` and a number. -/
def times? (coefficient : Nat) (exponent : Int) (factor : Nat) : Option (Nat × Int) :=
  let (c, e) := round (coefficient * factor) exponent
  if c ≠ 0 ∧ greatestPlace < e + digitCount c - 1 then none else some (c, e)

end Decimal

end CellPurse
