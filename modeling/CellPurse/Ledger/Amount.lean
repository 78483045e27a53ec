import CellPurse.Fault
import CellPurse.Number.Decimal
import CellPurse.Text.Quoted

/-!
# CellPurse.Ledger.Amount — amounts of coins as texts

Amounts are counted in shannons; a text counts whole coins of `10 ^ 8` shannons.

* `Amount.parse`: the shannons of a decimal text with at most eight decimals, below `2 ^ 64`;
* `Amount.text`: an amount as a text, at least one decimal and no zeros after it.
-/

namespace CellPurse

/-- Why a text is no amount. -/
inductive AmountFault where
  /-- No decimal, or one that is negative or no finite number. -/
  | invalid (text : String)
  /-- More than eight decimals. -/
  | decimals (text : String)
  /-- Too many shannons for 64 bits. -/
  | overflow (text : String)
  /-- Too large to be multiplied. -/
  | unbounded
  deriving DecidableEq, Repr

namespace Amount

/-- One coin. -/
def coin : Nat := 100000000

/-- The decimals of a coin. -/
def maxDecimals : Nat := 8

/-- The greatest amount. -/
def limit : Nat := 2 ^ 64 - 1

end Amount

/-- The fault in words; an amount too large to be multiplied has none. -/
def AmountFault.message? : AmountFault → Option String
  | invalid text => some ("Invalid capacity: " ++ Text.Quoted.quote text)
  | decimals text =>
    some ("Capacity has more than " ++ toString Amount.maxDecimals ++ " decimals: " ++ Text.Quoted.quote text)
  | overflow text => some ("Capacity overflow: " ++ Text.Quoted.quote text)
  | unbounded => none

/-- What the fault is about. -/
def AmountFault.kind : AmountFault → FaultKind
  | .unbounded => .overflow
  | _ => .amount

instance : Fault AmountFault := ⟨AmountFault.kind, fun f => f.message?⟩

namespace Amount

/-- The integer part of `coefficient * 10 ^ exponent`, unless it is above the limit. -/
def whole? (coefficient : Nat) (exponent : Int) : Option Nat :=
  let n :=
    if 0 ≤ exponent then
      if coefficient = 0 then 0 else coefficient * 10 ^ min exponent.toNat 20
    else coefficient / 10 ^ (-exponent).toNat
  if n ≤ limit then some n else none

/-- The shannons of a text. -/
def parse (text : String) : Except AmountFault Nat :=
  let text := Text.Blank.trim text
  match Decimal.parse? text with
  | some (.finite negative c e) =>
    if negative ∧ c ≠ 0 then .error (.invalid text)
    else if e < -(maxDecimals : Int) then .error (.decimals text)
    else match Decimal.times? c e coin with
      | none => .error .unbounded
      | some (c, e) =>
        match whole? c e with
        | some n => .ok n
        | none => .error (.overflow text)
  | _ => .error (.invalid text)

/-- The decimals of an amount below one coin, without zeros at the end. -/
def decimals (n : Nat) : List Char :=
  let ds := Nat.toDigits 10 n
  let padded := List.replicate (maxDecimals - ds.length) '0' ++ ds
  let kept := (padded.reverse.dropWhile (· = '0')).reverse
  if kept.isEmpty then ['0'] else kept

/-- The number of coins in decimal. -/
def coins (shannons : Int) : String :=
  toString (shannons / coin) ++ "." ++ String.ofList (decimals (shannons % coin).toNat)

/-- The amount in words. -/
def text (shannons : Int) : String := coins shannons ++ " (CKB)"

end Amount

end CellPurse
