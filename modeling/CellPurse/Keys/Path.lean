import CellPurse.Fault
import CellPurse.Number.Literal
import CellPurse.Number.Power
import CellPurse.Text.Split

/-!
# CellPurse.Keys.Path — paths of derived keys

A path starts with `m`; its components, after the first slash, number the children to take.  A quote or an `h` at the
end of a component marks a hardened child, whose number lies `2 ^ 31` above.

* `Path.components`: the components that are not empty;
* `Path.child`: the number of the child that a component takes;
* `PathFault`: what can be wrong with a path, or on the way along it.
-/

namespace CellPurse

open Text

/-- What is wrong with a path. -/
inductive PathFault where
  /-- The path does not start with `m`. -/
  | noRoot
  /-- A component is no integer. -/
  | literal (f : LiteralFault)
  /-- A component is too large. -/
  | outOfRange (component : String)
  /-- The number of the child is negative. -/
  | negative
  /-- There is no key at this child. -/
  | invalidChild
  deriving DecidableEq, Repr

/-- The fault in words; a negative number has none. -/
def PathFault.message? : PathFault → Option String
  | noRoot => some "Path must start with 'm'"
  | literal f => some f.message
  | outOfRange component => some ("Path index out of range: " ++ component)
  | negative => none
  | invalidChild => some "Invalid child key"

/-- What the fault is about. -/
def PathFault.kind : PathFault → FaultKind
  | .negative => .unbounded
  | _ => .value

instance : Fault PathFault := ⟨PathFault.kind, fun f => f.message?⟩

namespace Path

/-- The first hardened child. -/
def hardenedOffset : Nat := 2 ^ 31

/-- The components that are not empty, unless the path has no root. -/
def components (path : List Char) : Except PathFault (List (List Char)) :=
  match path with
  | 'm' :: _ => .ok ((Split.pieces '/' path).tail.filter fun w => !w.isEmpty)
  | _ => .error .noRoot

/-- A mark of a hardened component. -/
def isMark (c : Char) : Bool := c = '\'' || c = 'h'

/-- The component ends with a mark. -/
def isHardened (component : List Char) : Bool :=
  match component.getLast? with
  | some c => isMark c
  | none => false

/-- The component without the marks at its end. -/
def unmarked (component : List Char) : List Char := (component.reverse.dropWhile isMark).reverse

/-- The number of the child that a component takes. -/
def child (component : List Char) : Except PathFault Int := do
  let n ← (Literal.parse 10 (String.ofList (unmarked component))).mapError .literal
  if hardenedOffset ≤ n then .error (.outOfRange (String.ofList component))
  else pure (if isHardened component then n + hardenedOffset else n)

end Path

end CellPurse
