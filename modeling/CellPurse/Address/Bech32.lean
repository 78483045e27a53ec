import CellPurse.Text.Case

/-!
# CellPurse.Address.Bech32 — checked text

A checked text is a prefix, the separator `1`, and symbols of five bits each, the last six of which are a checksum
over all that comes before.  There is no limit on its length.

* `Bech32.polymod`: the remainder of the symbols, as a polynomial over the field of 32 elements, by the generator of
  the code.  It has thirty bits;
* `Bech32.checksum`: the six symbols that make the remainder a given constant;
* `Bech32.encode`, `Bech32.decode`: texts from prefix, symbols and constant, and back.  A text may be in capitals,
  as a whole;
* `Bech32.encodeIntegers`: symbols given as integers, of which those from `-32` to `-1` count from the end.
-/

namespace CellPurse

open Text

/-- Why a text is no checked text. -/
inductive Bech32Fault where
  | mixedCase
  | separator
  | character
  | symbol
  | checksum
  deriving DecidableEq, Repr

namespace Bech32

/-- The characters of the symbols. -/
def charset : List Char :=
  ['q', 'p', 'z', 'r', 'y', '9', 'x', '8', 'g', 'f', '2', 't', 'v', 'd', 'w', '0',
   's', '3', 'j', 'n', '5', '4', 'k', 'h', 'c', 'e', '6', 'm', 'u', 'a', '7', 'l']

/-- The constant of the older code. -/
def plainConst : BitVec 30 := 1

/-- The constant of the newer code. -/
def modifiedConst : BitVec 30 := 0x2BC830A3

/-! ## The code -/

/-- The multiples of the generator that the five bits shifted out stand for. -/
def generator : List (BitVec 30) := [0x3B6A57B2, 0x26508E6D, 0x1EA119FA, 0x3D4233DD, 0x2A1462B3]

/-- Adds the generators whose bits are set in `top`, from bit `i` on. -/
def reduce (top : BitVec 30) : Nat → List (BitVec 30) → BitVec 30 → BitVec 30
  | _, [], acc => acc
  | i, g :: r, acc => reduce top (i + 1) r (if top.getLsbD i then acc ^^^ g else acc)

/-- Shifts a symbol in. -/
def step (acc v : BitVec 30) : BitVec 30 :=
  reduce (acc >>> 25) 0 generator (((acc &&& 0x1FFFFFF) <<< 5) ^^^ v)

/-- The remainder of some symbols. -/
def polymod (values : List (BitVec 30)) : BitVec 30 := values.foldl step 1

/-- The symbols of a prefix: the high bits of its characters, a zero, and the low bits. -/
def expand (hrp : List Char) : List (BitVec 30) :=
  hrp.map (fun c => BitVec.ofNat 30 (c.toNat / 32)) ++ 0 :: hrp.map fun c => BitVec.ofNat 30 (c.toNat % 32)

/-- The six symbols of a remainder, high one first. -/
def symbols (r : BitVec 30) : List Nat := [25, 20, 15, 10, 5, 0].map fun i => (r >>> i).toNat % 32

/-- The checksum of a prefix and symbols. -/
def checksum (hrp : List Char) (data : List (BitVec 30)) (const : BitVec 30) : List Nat :=
  symbols (polymod (expand hrp ++ data ++ List.replicate 6 0) ^^^ const)

/-! ## Texts -/

/-- The character of a symbol. -/
def char (v : Nat) : Char := charset.getD v 'q'

/-- The symbol of a character. -/
def symbol? (c : Char) : Option Nat := charset.idxOf? c

/-- The text of a prefix and symbols. -/
def encode (hrp : List Char) (data : List Nat) (const : BitVec 30) : List Char :=
  hrp ++ '1' :: (data ++ checksum hrp (data.map (BitVec.ofNat 30)) const).map char

/-- The place of the last separator. -/
def lastSeparator? (cs : List Char) : Option Nat :=
  (cs.reverse.idxOf? '1').map fun i => cs.length - 1 - i

/-- The prefix, the symbols before the checksum, and the constant of a text. -/
def decode (text : List Char) : Except Bech32Fault (List Char × List Nat × BitVec 30) :=
  if Case.isMixed text then .error .mixedCase
  else
    let cs := Case.lower text
    match lastSeparator? cs with
    | none => .error .separator
    | some pos =>
      if pos < 1 ∨ cs.length < pos + 7 then .error .separator
      else if cs.any fun c => c.toNat < 33 || 126 < c.toNat then .error .character
      else
        let hrp := cs.take pos
        match (cs.drop (pos + 1)).mapM symbol? with
        | none => .error .symbol
        | some data =>
          let const := polymod (expand hrp ++ data.map (BitVec.ofNat 30))
          if const = plainConst ∨ const = modifiedConst then .ok (hrp, data.take (data.length - 6), const)
          else .error .checksum

/-! ## Integers as symbols -/

/-- The character of an integer, which may count from the end of the characters. -/
def charOf? (v : Int) : Option Char :=
  if 0 ≤ v then charset[v.toNat]? else if -32 ≤ v then charset[(v + 32).toNat]? else none

/-- The text of a prefix and integers, unless one of them has no character. -/
def encodeIntegers (hrp : List Char) (data : List Int) (const : Int) : Option (List Char) := do
  let body ← data.mapM charOf?
  let check := checksum hrp (data.map (BitVec.ofInt 30)) (BitVec.ofInt 30 const)
  pure (hrp ++ '1' :: body ++ check.map char)

end Bech32

end CellPurse
