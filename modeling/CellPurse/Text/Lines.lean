/-!
# CellPurse.Text.Lines — ends of lines

A line may end with a carriage return, a line feed, or both in this order.

* `Lines.plain`: a text in which every line ends with a line feed;
* `Lines.count`: how many lines end in a text whose lines end so.
-/

namespace CellPurse.Text.Lines

/-- Every end of a line becomes a line feed. -/
def plain : List Char → List Char
  | [] => []
  | '\r' :: '\n' :: r => '\n' :: plain r
  | '\r' :: r => '\n' :: plain r
  | c :: r => c :: plain r

/-- How many lines end. -/
def count (cs : List Char) : Nat := cs.count '\n'

end CellPurse.Text.Lines
