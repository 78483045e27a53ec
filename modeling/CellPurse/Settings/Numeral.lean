import CellPurse.Number.Binary64
import CellPurse.Number.Literal

/-!
# CellPurse.Settings.Numeral — numbers in settings

Settings and the values of options are texts.  An integer may have blanks around it, a sign, zeros and underscores in
front, single underscores between its digits, and a fraction of zeros; a real number may have a point and an exponent,
or is one of the words for infinity and for not a number.  Digits are those of ASCII.

* `Numeral.integer`: the integer of a text;
* `Numeral.real?`: the double of a text.
-/

namespace CellPurse

open Text

/-- Why a text is no integer. -/
inductive NumeralFault where
  | malformed
  /-- More digits than are read. -/
  | tooLong
  deriving DecidableEq, Repr

namespace Numeral

/-- The text without the blanks at its ends. -/
def trim (cs : List Char) : List Char := Blank.trimList Literal.isBlank cs

/-! ## Integers -/

/-- Drops a plus sign that no minus sign follows. -/
def unsign : List Char → Option (List Char)
  | '+' :: '-' :: _ => none
  | '+' :: r => some r
  | cs => some cs

/-- A number starts here: a digit, or a minus sign. -/
def isStart (c : Char) : Bool := c = '-' || Digit.isAscii c

/-- Drops zeros and underscores after a first zero.  The character before the point, or the last one, stays. -/
def unpadAfter (last : Char) : List Char → Option (List Char)
  | [] => some [last]
  | c :: r =>
    if c = '0' ∨ c = '_' then unpadAfter c r
    else if c = '.' then some (last :: c :: r)
    else if isStart c then some (c :: r)
    else none

/-- Drops the zeros in front; a minus sign may come after them. -/
def unpad : List Char → Option (List Char)
  | [] => none
  | c :: r => if c = '0' then unpadAfter c r else if isStart c then some (c :: r) else none

/-- Drops a point with zeros behind it, at least one and nothing else. -/
def unpoint (cs : List Char) : List Char :=
  let fraction := (cs.dropWhile (· ≠ '.')).drop 1
  if !fraction.isEmpty ∧ fraction.all (· = '0') then cs.takeWhile (· ≠ '.') else cs

/-- Two underscores stand side by side. -/
def hasPair : List Char → Bool
  | '_' :: '_' :: _ => true
  | _ :: r => hasPair r
  | [] => false

/-- Drops underscores, if each stands alone between other characters. -/
def unmark (cs : List Char) : List Char :=
  if cs.head? = some '_' ∨ cs.getLast? = some '_' ∨ hasPair cs then cs else cs.filter (· ≠ '_')

/-- Reads digits with single underscores between them. -/
def digits (cs : List Char) : Except NumeralFault Nat :=
  let ds := unmark cs
  if ds.isEmpty ∨ !ds.all Digit.isAscii then .error .malformed
  else if Literal.digitLimit < ds.length then .error .tooLong
  else .ok (Digit.natOf ds)

/-- Reads a minus sign and digits. -/
def signed : List Char → Except NumeralFault Int
  | '-' :: r => do
    let n ← digits r
    pure (-(n : Int))
  | cs => do
    let n ← digits cs
    pure n

/-- The integer of a text. -/
def integer (s : String) : Except NumeralFault Int :=
  match unsign (trim s.toList) >>= unpad with
  | some cs => signed (unpoint cs)
  | none => .error .malformed

/-! ## Real numbers -/

/-- The words for infinity and for not a number, in any case. -/
def word? (negative : Bool) (cs : List Char) : Option Float :=
  let word := String.ofList (cs.map Char.toLower)
  if word = "inf" ∨ word = "infinity" then some (if negative then -1.0 / 0.0 else 1.0 / 0.0)
  else if word = "nan" then some (0.0 / 0.0)
  else none

/-- The exponent; nothing stands for none. -/
def exponent? : List Char → Option Int
  | [] => some 0
  | e :: r =>
    let (negative, ds) := Literal.sign r
    if (e = 'e' ∨ e = 'E') ∧ !ds.isEmpty ∧ ds.all Digit.isAscii then
      some (if negative then -(Digit.natOf ds : Int) else Digit.natOf ds)
    else none

/-- Digits with a point among them, and an exponent. -/
def decimal? (negative : Bool) (cs : List Char) : Option Float :=
  let whole := cs.takeWhile Digit.isAscii
  let rest := cs.dropWhile Digit.isAscii
  let (fraction, rest) := match rest with
    | '.' :: r => (r.takeWhile Digit.isAscii, r.dropWhile Digit.isAscii)
    | _ => ([], rest)
  if whole.isEmpty ∧ fraction.isEmpty then none
  else (exponent? rest).map fun e => Binary64.nearest negative (Digit.natOf (whole ++ fraction)) (e - fraction.length)

/-- A double without blanks and underscores. -/
def plain? (cs : List Char) : Option Float :=
  let (negative, r) := Literal.sign cs
  (word? negative r).or (decimal? negative r)

/-- The double of a text. -/
def real? (s : String) : Option Float := (plain? (trim s.toList)).or (plain? (unmark s.toList))

end Numeral

end CellPurse
