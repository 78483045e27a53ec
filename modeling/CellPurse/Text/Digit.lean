/-!
# CellPurse.Text.Digit — digit characters

Decimal digits of every script (Unicode 14, general category `Nd`) come in runs of ten, zero first.

* `Digit.decimal?`: the value of a decimal digit of any script; `Digit.plain`: the ASCII digit of that value;
* `Digit.hex?`: the value of an ASCII hexadecimal digit of either case;
* `Digit.char`: the lower-case digit with a given value;
* `Digit.natOf`: the number that ASCII digits spell.
-/

namespace CellPurse.Text.Digit

/-- The zeros of the scripts with decimal digits. -/
def zeros : List Nat :=
  [0x30, 0x660, 0x6F0, 0x7C0, 0x966, 0x9E6, 0xA66, 0xAE6, 0xB66, 0xBE6, 0xC66, 0xCE6, 0xD66, 0xDE6, 0xE50, 0xED0,
   0xF20, 0x1040, 0x1090, 0x17E0, 0x1810, 0x1946, 0x19D0, 0x1A80, 0x1A90, 0x1B50, 0x1BB0, 0x1C40, 0x1C50, 0xA620,
   0xA8D0, 0xA900, 0xA9D0, 0xA9F0, 0xAA50, 0xABF0, 0xFF10, 0x104A0, 0x10D30, 0x11066, 0x110F0, 0x11136, 0x111D0,
   0x112F0, 0x11450, 0x114D0, 0x11650, 0x116C0, 0x11730, 0x118E0, 0x11950, 0x11C50, 0x11D50, 0x11DA0, 0x16A60,
   0x16AC0, 0x16B50, 0x1D7CE, 0x1D7D8, 0x1D7E2, 0x1D7EC, 0x1D7F6, 0x1E140, 0x1E2F0, 0x1E950, 0x1FBF0]

/-- The value of a decimal digit. -/
def decimal? (c : Char) : Option Nat :=
  if c.toNat < 0x80 then
    if '0' ≤ c ∧ c ≤ '9' then some (c.toNat - '0'.toNat) else none
  else
    (zeros.find? fun z => z ≤ c.toNat && c.toNat < z + 10).map (c.toNat - ·)

/-- The value of a hexadecimal digit. -/
def hex? (c : Char) : Option Nat :=
  if '0' ≤ c ∧ c ≤ '9' then some (c.toNat - '0'.toNat)
  else if 'a' ≤ c ∧ c ≤ 'f' then some (c.toNat - 'a'.toNat + 10)
  else if 'A' ≤ c ∧ c ≤ 'F' then some (c.toNat - 'A'.toNat + 10)
  else none

/-- The lower-case digit of value `n`, for `n` below sixteen. -/
def char (n : Nat) : Char :=
  if n < 10 then Char.ofNat ('0'.toNat + n) else Char.ofNat ('a'.toNat + (n - 10))

/-- The ASCII digit with the value of a decimal digit; any other character as it is. -/
def plain (c : Char) : Char :=
  match decimal? c with
  | some d => char d
  | none => c

/-- A decimal digit of ASCII. -/
def isAscii (c : Char) : Bool := '0' ≤ c && c ≤ '9'

/-- The number spelled by ASCII digits. -/
def natOf (ds : List Char) : Nat := ds.foldl (fun n d => 10 * n + (d.toNat - '0'.toNat)) 0

theorem hex?_char_all : ∀ n < 16, hex? (char n) = some n := by decide

theorem hex?_char {n : Nat} (h : n < 16) : hex? (char n) = some n := hex?_char_all n h

theorem decimal?_char_all : ∀ n < 10, decimal? (char n) = some n := by decide

end CellPurse.Text.Digit
