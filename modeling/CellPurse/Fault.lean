/-!
# CellPurse.Fault — sorts of faults

Every part of the purse has its own faults.  What they have in common is a kind, which says whom the fault concerns, and
in most cases words.

* `FaultKind`: the kinds; `FaultKind.isTold`: those that the user of the purse can do something about;
* `Fault`: the types of faults.
-/

namespace CellPurse

/-- What a fault is about. -/
inductive FaultKind where
  /-- A text that the user gave. -/
  | input
  /-- A locked source; the word says which of its rules is broken. -/
  | locked (rule : String)
  /-- Too little to pay with. -/
  | funds
  /-- A fee above the ceiling. -/
  | ceiling
  /-- Keys that do not fit what is to be spent. -/
  | mismatch
  | password
  | account
  /-- A key that can not be derived. -/
  | derivation
  /-- The way to the node. -/
  | transport
  /-- A node that does not do what it is told. -/
  | consistency
  | address
  | amount
  /-- An amount beyond all numbers. -/
  | overflow
  | policy
  | since
  /-- A transaction that is already finished. -/
  | finalized
  /-- A value that is not allowed. -/
  | value
  /-- A part of a document that is absent. -/
  | missing
  /-- A value of a document that has no fields, or is no text. -/
  | shape
  /-- A value of a document that has no parts, or is no number. -/
  | sort
  /-- A place outside a list. -/
  | place
  /-- A number beyond the words of the machine. -/
  | unbounded
  /-- A number that does not fit its field, or too few bytes to read. -/
  | width
  /-- The address of a node. -/
  | url
  /-- A text that is no document. -/
  | grammar
  /-- A document nested too deeply. -/
  | depth
  /-- Settings that make no sense. -/
  | settings
  /-- A file that is absent, a file in place of a directory or the other way round, the name of a file that is too
  long, or a file that is no text. -/
  | noFile
  | noDirectory
  | directory
  | placeLength
  | notText
  deriving DecidableEq, Repr

/-- The user of the purse can do something about it. -/
def FaultKind.isTold : FaultKind → Bool
  | input | locked _ | funds | ceiling | mismatch | password | account | derivation | transport | consistency => true
  | _ => false

/-- Faults with a kind and, unless a value has the wrong shape, words. -/
class Fault (ε : Type) where
  kind : ε → FaultKind
  message? : ε → Option String

end CellPurse
