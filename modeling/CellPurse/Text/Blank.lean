/-!
# CellPurse.Text.Blank — blank characters

The characters that are trimmed from the ends of a text: the controls from tab to carriage return and from file to
unit separator, and the spaces, line and paragraph separators of Unicode 14.

* `Blank.trim`: a text without the blanks at its ends;
* `Blank.isAscii`: the six blanks of plain ASCII text.
-/

namespace CellPurse.Text.Blank

/-- The blanks outside ASCII, as ranges. -/
def wide : List (Nat × Nat) :=
  [(0x85, 0x85), (0xA0, 0xA0), (0x1680, 0x1680), (0x2000, 0x200A), (0x2028, 0x2029), (0x202F, 0x202F),
   (0x205F, 0x205F), (0x3000, 0x3000)]

/-- Tab, line feed, vertical tab, form feed, carriage return and space. -/
def isAscii (c : Char) : Bool := c = ' ' || (0x09 ≤ c.toNat && c.toNat ≤ 0x0D)

/-- A blank outside ASCII. -/
def isWide (c : Char) : Bool := wide.any fun r => r.1 ≤ c.toNat && c.toNat ≤ r.2

/-- A blank: one of plain ASCII text, an ASCII separator control, or a blank outside ASCII. -/
def isBlank (c : Char) : Bool := isAscii c || (0x1C ≤ c.toNat && c.toNat ≤ 0x1F) || isWide c

/-- The characters without those at either end that satisfy `p`. -/
def trimList (p : Char → Bool) (cs : List Char) : List Char :=
  ((cs.dropWhile p).reverse.dropWhile p).reverse

/-- The text without the blanks at its ends. -/
def trim (s : String) : String := String.ofList (trimList isBlank s.toList)

end CellPurse.Text.Blank
