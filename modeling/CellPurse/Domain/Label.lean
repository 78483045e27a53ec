import CellPurse.Domain.Allowed
import CellPurse.Domain.Composed
import CellPurse.Domain.Direction
import CellPurse.Domain.Punycode

/-!
# CellPurse.Domain.Label — labels of domain names

A label has letters, digits, marks and hyphens of all scripts, by the rules of 2008.  One that is not ASCII is written
as an ASCII form behind `xn--`.

* `Label.fits`: a character that is not allowed everywhere is allowed in its place;
* `Label.isValid`: the rules;
* `Label.encode?`: the label in ASCII.
-/

namespace CellPurse.Domain.Label

open Text

/-! ## Places -/

/-- Greek letters. -/
def greek : Array (Nat × Nat) := #[(0x371, 0x3E1), (0x3F3, 0x3FC), (0x1D26, 0x1D2A), (0x1F00, 0x1FF6), (0xAB65, 0xAB65)]

/-- Hebrew letters, and the two signs that follow them. -/
def hebrew : Array (Nat × Nat) := #[(0x591, 0x5F4), (0xFB1E, 0xFB1E)]

/-- Syllables and ideographs of Japanese. -/
def japanese : Array (Nat × Nat) :=
  #[(0x3005, 0x3005), (0x3007, 0x3007), (0x3041, 0x3096), (0x309D, 0x309E), (0x30A1, 0x30FA), (0x30FD, 0x30FE),
   (0x31F0, 0x31FF), (0x3400, 0x9FFF), (0xFA0E, 0xFA29), (0x1AFF0, 0x1B167), (0x20000, 0x3134A)]

/-- Arabic digits, and their eastern forms. -/
def arabic : Array (Nat × Nat) := #[(0x660, 0x669)]

/-- The eastern forms of Arabic digits. -/
def eastern : Array (Nat × Nat) := #[(0x6F0, 0x6F9)]

/-- Letters that join those on both sides. -/
def joinsBoth : Array (Nat × Nat) :=
  #[(0x620, 0x620), (0x626, 0x626), (0x628, 0x628), (0x62A, 0x62E), (0x633, 0x63F), (0x641, 0x647), (0x649, 0x64A),
   (0x66E, 0x66F), (0x678, 0x687), (0x69A, 0x6BF), (0x6C1, 0x6C2), (0x6CC, 0x6CC), (0x6CE, 0x6CE), (0x6D0, 0x6D1),
   (0x6FA, 0x6FC), (0x6FF, 0x6FF), (0x712, 0x714), (0x71A, 0x71D), (0x71F, 0x727), (0x729, 0x729), (0x72B, 0x72B),
   (0x72D, 0x72E), (0x74E, 0x758), (0x75C, 0x76A), (0x76D, 0x770), (0x772, 0x772), (0x775, 0x777), (0x77A, 0x77F),
   (0x7CA, 0x7EA)]

/-- Letters that join only those in front. -/
def joinsBefore : Array (Nat × Nat) :=
  #[(0x622, 0x625), (0x627, 0x627), (0x629, 0x629), (0x62F, 0x632), (0x648, 0x648), (0x671, 0x673), (0x675, 0x677),
   (0x688, 0x699), (0x6C0, 0x6C0), (0x6C3, 0x6CB), (0x6CD, 0x6CD), (0x6CF, 0x6CF), (0x6D2, 0x6D3), (0x6D5, 0x6D5),
   (0x6EE, 0x6EF), (0x710, 0x710), (0x715, 0x719), (0x71E, 0x71E), (0x728, 0x728), (0x72A, 0x72A), (0x72C, 0x72C),
   (0x72F, 0x72F), (0x74D, 0x74D), (0x759, 0x75B), (0x76B, 0x76C), (0x771, 0x771), (0x773, 0x774), (0x778, 0x779)]

/-- The first character of a text is in a set. -/
def startsIn (set : Array (Nat × Nat)) (cs : List Char) : Bool := (cs.head?.map (Ranges.has set)).getD false

/-- The letters on both sides would join if nothing were between them; `before` is given from its end. -/
def parts (before after : List Char) : Bool :=
  let letters := List.dropWhile Marks.isMark
  startsIn joinsBoth (letters before) && (startsIn joinsBoth (letters after) || startsIn joinsBefore (letters after))

/-- The character in front takes its vowel from a letter; `before` is given from its end. -/
def afterVirama (before : List Char) : Bool := (before.head?.map Marks.isVirama).getD false

/-- A character that is not allowed everywhere is allowed between two parts of a label, the first of which is given
from its end. -/
def fits (label before : List Char) (c : Char) (after : List Char) : Bool :=
  match c.toNat with
  | 0x200C => afterVirama before || parts before after
  | 0x200D => afterVirama before
  | 0xB7 => before.head? = some 'l' && after.head? = some 'l'
  | 0x375 => startsIn greek after
  | 0x5F3 | 0x5F4 => startsIn hebrew before
  | 0x30FB => label.any (Ranges.has japanese)
  | _ =>
    Ranges.has arabic c && !label.any (Ranges.has eastern) || Ranges.has eastern c && !label.any (Ranges.has arabic)

/-! ## Rules -/

/-- Every character of a label is allowed behind those of `before`, which are given from their end. -/
def allFit (label before : List Char) : List Char → Bool
  | [] => true
  | c :: r => (Allowed.isAllowed c || fits label before c r) && allFit label (c :: before) r

/-- Hyphens are neither at an end nor both third and fourth. -/
def hyphensFit (label : List Char) : Bool :=
  label.head? ≠ some '-' && label.getLast? ≠ some '-' && (label.drop 2).take 2 ≠ ['-', '-']

/-- The label keeps the rules. -/
def isValid (label : List Char) : Bool :=
  !label.isEmpty && Composed.isComposed label && hyphensFit label && !(label.head?.map Marks.isMark).getD false &&
    allFit label [] label && Direction.isPlain label

/-! ## In ASCII -/

/-- What stands in front of an ASCII form. -/
def mark : List Char := ['x', 'n', '-', '-']

/-- How long a label in ASCII may be. -/
def longest : Nat := 63

/-- An ASCII label is the form of a label that keeps the rules, or keeps them itself. -/
def isValidAscii (label : List Char) : Bool :=
  if mark.isPrefixOf label then
    let form := label.drop mark.length
    !form.isEmpty && form.getLast? ≠ some '-' && ((Punycode.decode? form).map isValid).getD false
  else isValid label

/-- The label in ASCII. -/
def encode? (label : List Char) : Option (List Char) :=
  let isAscii := label.all (·.toNat < 0x80)
  let written := if isAscii then label else mark ++ Punycode.encode label
  if (if isAscii then isValidAscii label else isValid label) && written.length ≤ longest then some written else none

end CellPurse.Domain.Label
