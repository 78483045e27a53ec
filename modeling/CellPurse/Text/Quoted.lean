import CellPurse.Text.Digit
import CellPurse.Text.Printable

/-!
# CellPurse.Text.Quoted — texts in quotes

How a message shows a text that it was given: in single quotes, or in double quotes when the text holds a single
quote and no double one.  The quote in use and the backslash are escaped, line feed, carriage return and tab have
letters, and every other character that is not printable is written by its code in two, four or eight digits.

* `Quoted.quote`: the quoted text.
-/

namespace CellPurse.Text.Quoted

/-- The quote mark for a text. -/
def mark (cs : List Char) : Char :=
  if cs.contains '\'' && !cs.contains '"' then '"' else '\''

/-- The `w` lowest hexadecimal digits of `n`, high digit first. -/
def code : Nat → Nat → List Char
  | 0, _ => []
  | w + 1, n => code w (n / 16) ++ [Digit.char (n % 16)]

/-- One character between quote marks `q`. -/
def escape (q c : Char) : List Char :=
  if c = q ∨ c = '\\' then ['\\', c]
  else if c = '\n' then ['\\', 'n']
  else if c = '\r' then ['\\', 'r']
  else if c = '\t' then ['\\', 't']
  else if Printable.isPrintable c then [c]
  else if c.toNat < 0x100 then '\\' :: 'x' :: code 2 c.toNat
  else if c.toNat < 0x10000 then '\\' :: 'u' :: code 4 c.toNat
  else '\\' :: 'U' :: code 8 c.toNat

/-- The text in quotes. -/
def quote (s : String) : String :=
  let q := mark s.toList
  String.ofList (q :: s.toList.flatMap (escape q) ++ [q])

end CellPurse.Text.Quoted
