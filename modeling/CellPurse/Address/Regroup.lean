import CellPurse.Fault
import CellPurse.Number.Power

/-!
# CellPurse.Address.Regroup — bits in groups of another size

Reads a sequence of groups of `from` bits as one string of bits, and cuts it into groups of `to` bits.

* `Regroup.run`: the groups that are complete, and the bits left over.  Of the bits read only the last
  `from + to - 1` are kept, which is all that a group can still take;
* `Regroup.convert`: with padding the bits left over, if any, become a last group; without it they must be fewer than
  a group that was read, and zero;
* `Regroup.convertIntegers`: the same for integers of any sign and size, of which the low bits count, and for widths of
  any sign up to `Regroup.widest`.
-/

namespace CellPurse

/-- Why groups cannot be regrouped. -/
inductive RegroupFault where
  /-- Bits are left over that are no padding. -/
  | leftOver
  /-- A group of a negative number of bits. -/
  | negativeWidth
  /-- A group of more bits than a number is given. -/
  | tooWide
  deriving DecidableEq, Repr

/-- The fault in words; a group that is too wide has none. -/
def RegroupFault.message? : RegroupFault → Option String
  | leftOver => some "Invalid bits"
  | negativeWidth => some "negative shift count"
  | tooWide => none

/-- What the fault is about. -/
def RegroupFault.kind : RegroupFault → FaultKind
  | leftOver => .address
  | negativeWidth => .value
  | tooWide => .unbounded

instance : Fault RegroupFault := ⟨RegroupFault.kind, RegroupFault.message?⟩

namespace Regroup

/-- The groups of `t` bits in the `bits` lowest bits of `acc`, high ones first. -/
def groups (t acc : Nat) : Nat → Nat → List Nat
  | 0, _ => []
  | n + 1, bits => acc / 2 ^ (bits - t) % 2 ^ t :: groups t acc n (bits - t)

/-- Complete groups, the last bits read, and how many of these are left over. -/
def run (f t : Nat) : List Nat → Nat → Nat → List Nat × Nat × Nat
  | [], acc, bits => ([], acc, bits)
  | v :: r, acc, bits =>
    let acc := ((acc <<< f) ||| v) % 2 ^ (f + t - 1)
    let n := (bits + f) / t
    let (gs, last) := run f t r acc ((bits + f) % t)
    (groups t acc n (bits + f) ++ gs, last)

/-- Groups of `t` bits from groups of `f` bits, unless bits are left over that are no padding. -/
def convert (f t : Nat) (pad : Bool) (data : List Nat) : Option (List Nat) :=
  let (gs, acc, bits) := run f t data 0 0
  let last := acc <<< (t - bits) % 2 ^ t
  if pad then some (if bits = 0 then gs else gs ++ [last])
  else if f ≤ bits ∨ last ≠ 0 then none
  else some gs

/-- How many bits a number is given at most. -/
def widest : Nat := 2 ^ 32

/-- A width is that of a number. -/
def checkWidth (w : Int) : Except RegroupFault Unit :=
  if w < 0 then .error .negativeWidth else if widest ≤ w then .error .tooWide else .ok ()

/-- Groups of `t` bits from the low bits of integers.  Without integers, groups of a negative number of bits are no
fault of their own. -/
def convertIntegers (f t : Int) (pad : Bool) (data : List Int) : Except RegroupFault (List Nat) := do
  checkWidth t
  checkWidth (f + t - 1)
  if f < 0 then if data ≠ [] then throw .negativeWidth else if pad then pure [] else throw .leftOver
  else match convert f.toNat t.toNat pad (data.map fun v => (v % 2 ^ (f + t - 1).toNat).toNat) with
    | some gs => pure gs
    | none => throw .leftOver

end Regroup

end CellPurse
