import CellPurse.Text.Quoted

/-!
# CellPurse.Url.Escape — characters that stand for themselves

Each part of an address has characters that stand for themselves.  Every other one is written as its bytes, each in
two hexadecimal capitals behind a percent sign; the percent sign stands for itself, so that what is written so stays as
it is.

* `Escape.host`, `Escape.owner`, `Escape.path`, `Escape.query`, `Escape.fragment`: what stands for itself in the parts;
* `Escape.write`: a text with the bytes of all else.
-/

namespace CellPurse.Url.Escape

open Text

/-- Printable ASCII characters but some. -/
def allBut (others : String) (c : Char) : Bool := ' ' ≤ c && c ≤ '~' && !others.toList.contains c

/-- In a path. -/
def path : Char → Bool := allBut " \"#<>?`\x7b\x7d"

/-- In a query. -/
def query : Char → Bool := allBut " \"#<>"

/-- In a fragment. -/
def fragment : Char → Bool := allBut " \"<>`"

/-- In front of a host. -/
def owner : Char → Bool := allBut " \"#<>?`\x7b\x7d/;=@[\\]^|"

/-- In a host. -/
def host : Char → Bool := allBut " #/:<>?@[]^"

/-- One byte. -/
def byte (b : UInt8) : List Char := '%' :: (Quoted.code 2 b.toNat).map Char.toUpper

/-- One character. -/
def char (safe : Char → Bool) (c : Char) : List Char :=
  if safe c then [c] else (String.utf8EncodeChar c).flatMap byte

/-- A text. -/
def write (safe : Char → Bool) (cs : List Char) : List Char := cs.flatMap (char safe)

end CellPurse.Url.Escape
