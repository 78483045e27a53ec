import CellPurse.Text.Digit

/-!
# CellPurse.Domain.Punycode — texts as ASCII letters and digits

The ASCII characters of a text come first, then a hyphen if there are any, then numbers that say where which other
characters go.  They are put in by the order of their codes; each number counts the places passed since the last
insertion.  A number is written in base 36, low digit first, and its last digit is below a threshold that adapts to
the numbers before.

* `Punycode.encode`: the text in ASCII;
* `Punycode.decode?`: the text of an ASCII form.
-/

namespace CellPurse.Domain.Punycode

/-! ## Numbers -/

/-- The digit of a value below 36. -/
def digit (d : Nat) : Char := if d < 26 then Char.ofNat ('a'.toNat + d) else Char.ofNat ('0'.toNat + (d - 26))

/-- The value of a digit. -/
def value? (c : Char) : Option Nat :=
  if 'a' ≤ c ∧ c ≤ 'z' then some (c.toNat - 'a'.toNat)
  else if '0' ≤ c ∧ c ≤ '9' then some (c.toNat - '0'.toNat + 26)
  else none

/-- The threshold of the digit at place `j`. -/
def threshold (bias j : Nat) : Nat := max 1 (min 26 (36 * (j + 1) - bias))

theorem threshold_le (bias j : Nat) : threshold bias j ≤ 26 := by simp only [threshold]; omega

/-- A number in digits, from place `j` on. -/
def number (bias j n : Nat) : List Char :=
  let t := threshold bias j
  if n < t then [digit n]
  else digit (t + (n - t) % (36 - t)) :: number bias (j + 1) ((n - t) / (36 - t))
termination_by n
decreasing_by
  have := threshold_le bias j
  have : 1 ≤ threshold bias j := by simp only [threshold]; omega
  exact Nat.lt_of_le_of_lt (Nat.div_le_self _ _) (by omega)

/-- Reads a number, and what follows it: `sum` is the number so far, `weight` the weight of the next digit. -/
def number? (bias j sum weight : Nat) : List Char → Option (Nat × List Char)
  | [] => none
  | c :: r => do
    let d ← value? c
    let t := threshold bias j
    if d < t then pure (sum + d * weight, r) else number? bias (j + 1) (sum + d * weight) (weight * (36 - t)) r

/-- Divides a number by 35 until it is at most 455, and counts the divisions in steps of 36. -/
def shrink (n steps : Nat) : Nat × Nat :=
  if 455 < n then shrink (n / 35) (steps + 36) else (n, steps)
termination_by n
decreasing_by exact Nat.div_lt_self (by omega) (by omega)

/-- The bias behind a number, with the count of the characters that are there; the first number counts less. -/
def adapt (number count : Nat) (first : Bool) : Nat :=
  let n := number / (if first then 700 else 2)
  let (n, steps) := shrink (n + n / count) 0
  steps + 36 * n / (n + 38)

/-- The bias at the start. -/
def start : Nat := 72

/-! ## Writing -/

/-- What is written, how many characters are in, the bias, and the places passed. -/
structure State where
  written : List Char := []
  count : Nat
  bias : Nat := start
  passed : Nat := 0
  first : Bool := true

/-- Passes a character of the text when those of code `code` are put in. -/
def pass (code : Nat) (s : State) (c : Char) : State :=
  if c.toNat < code then { s with passed := s.passed + 1 }
  else if c.toNat = code then
    { written := s.written ++ number s.bias 0 s.passed, count := s.count + 1,
      bias := adapt s.passed (s.count + 1) s.first, passed := 0, first := false }
  else s

/-- Puts in the characters of the codes, of which each is above the last one. -/
def insertAll (cs : List Char) : Nat → List Nat → State → List Char
  | _, [], s => s.written
  | last, code :: codes, s =>
    let s := cs.foldl (pass code) { s with passed := s.passed + (code - last) * (s.count + 1) }
    insertAll cs (code + 1) codes { s with passed := s.passed + 1 }

/-- The text in ASCII. -/
def encode (cs : List Char) : List Char :=
  let plain := cs.filter (·.toNat < 0x80)
  let codes := (((cs.filter (0x80 ≤ ·.toNat)).map Char.toNat).mergeSort).eraseDups
  plain ++ (if plain.isEmpty then [] else ['-']) ++ insertAll cs 0x80 codes { count := plain.length }

/-! ## Reading -/

/-- The character of a code. -/
def char? (code : Nat) : Option Char := if code.isValidChar then some (Char.ofNat code) else none

/-- Puts in the characters that the numbers tell; each step reads some of the digits, of which there are at most
`fuel`. -/
def insertions (bias code place : Nat) (first : Bool) : Nat → List Char → List Char → Option (List Char)
  | _, cs, [] => some cs
  | 0, _, _ :: _ => none
  | fuel + 1, cs, digits => do
    let (n, rest) ← number? bias 0 0 1 digits
    let size := cs.length + 1
    let code := code + (place + n) / size
    let here := (place + n) % size
    let c ← char? code
    insertions (adapt n size first) code (here + 1) false fuel (cs.take here ++ c :: cs.drop here) rest

/-- The text of an ASCII form. -/
def decode? (cs : List Char) : Option (List Char) :=
  let back := cs.reverse
  let digits := (back.takeWhile (· ≠ '-')).reverse
  let plain := ((back.dropWhile (· ≠ '-')).drop 1).reverse
  insertions start 0x80 0 true digits.length plain digits

end CellPurse.Domain.Punycode
