import CellPurse.Domain.Marks
import CellPurse.Text.Digit

/-!
# CellPurse.Domain.Direction — labels from right to left

A label with a character that is written from right to left, or with a digit for such texts, starts with a character
of that direction, has none of the other, ends with one of that direction or a digit, marks apart, and has digits of one
kind (Unicode 14).

* `Direction.of`: the direction of an allowed character;
* `Direction.isPlain`: the rule.
-/

namespace CellPurse.Domain

open Text

/-- Where a character leads. -/
inductive Direction where
  | left
  | right
  /-- A digit for texts from right to left, and a digit for all others. -/
  | digitLeft
  | digit
  /-- A mark, which goes with what is in front of it. -/
  | mark
  | none
  deriving DecidableEq, Repr

namespace Direction

/-- The digits for texts from right to left. -/
def leftDigits : Array (Nat × Nat) := #[(0x660, 0x669), (0x10D30, 0x10D39)]

/-- The other digits that lead nowhere. -/
def digits : Array (Nat × Nat) := #[(0x30, 0x39), (0x6F0, 0x6F9)]

/-- The characters written from right to left; marks and digits are in between. -/
def lefts : Array (Nat × Nat) := #[(0x5D0, 0x8C9), (0xFE73, 0xFE73), (0x10800, 0x10FF6), (0x1E800, 0x1E959)]

/-- The other characters that lead nowhere. -/
def nones : Array (Nat × Nat) :=
  #[(0x2D, 0x2D), (0xB7, 0xB7), (0x2B9, 0x2BA), (0x2C6, 0x2CF), (0x2EC, 0x2EC), (0x375, 0x375), (0x200C, 0x200D),
   (0x2E2F, 0x2E2F), (0x30FB, 0x30FB), (0xA67F, 0xA67F), (0xA717, 0xA71F), (0xA788, 0xA788)]

/-- The direction of an allowed character. -/
def of (c : Char) : Direction :=
  if Marks.isMark c then mark
  else if Ranges.has leftDigits c then digitLeft
  else if Ranges.has digits c then digit
  else if Ranges.has lefts c then left
  else if Ranges.has nones c then none
  else right

/-- The directions of a label are as they may be. -/
def isPlain (label : List Char) : Bool :=
  let ds := label.map of
  if !(ds.contains left || ds.contains digitLeft) then true
  else
    let last := (ds.reverse.dropWhile (· = mark)).head?
    ds.head? = some left && !ds.contains right && !(ds.contains digit && ds.contains digitLeft) &&
      (last = some left || last = some digit || last = some digitLeft)

end Direction

end CellPurse.Domain
