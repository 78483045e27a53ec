import CellPurse.Node.Basic
import CellPurse.Transfer.Draft
import CellPurse.Transfer.Request

/-!
# CellPurse.Transfer.Fault — why a transfer fails

* `TransferFault`: the causes;
* `TransferFault.text`: the fault in words.  Where a value had the wrong shape there are no words for it, and a mark
  stands for them.
-/

namespace CellPurse

/-- Why a transfer fails. -/
inductive TransferFault where
  | request (f : RequestFault)
  | node (f : NodeFault)
  | keyring (f : KeyringFault)
  | bind (f : BindFault)
  | draft (f : DraftFault)
  | molecule (f : MoleculeFault)
  /-- A sum has too many digits to be told. -/
  | number (f : LiteralFault)
  /-- The cells of the payer hold less than is needed. -/
  | insufficient (payer : Address) (capacity : Nat)
  /-- The fee is above the highest one. -/
  | fee (highest : Nat)
  /-- The fee with what is too little for a cell is above the highest one. -/
  | feeWithRest (highest : Nat)
  /-- An account can not sign without a keyring. -/
  | noKeyring
  /-- A selected cell was spent. -/
  | notLive (point : OutPoint)
  /-- The node does not take the transaction. -/
  | send (f : NodeFault)
  /-- The node took a transaction with another hash. -/
  | inconsistent (sent expected : Bytes)
  deriving DecidableEq, Repr

namespace TransferFault

/-- The fault in words. -/
def message? : TransferFault → Option String
  | request f => f.message?
  | node f => f.message?
  | keyring f => f.message?
  | bind f => some f.message
  | draft f => f.message?
  | molecule f => f.message?
  | number f => some f.message
  | insufficient payer capacity =>
    some ("Capacity(mature) not enough: " ++ payer.encode ++ " => " ++ Amount.text capacity)
  | fee highest => some ("Transaction fee can not be more than " ++ Amount.text highest)
  | feeWithRest highest =>
    some ("Transaction fee can not be more than " ++ Amount.text highest ++
      ", please change to-capacity value to adjust")
  | noKeyring => some "A key store is required to sign for an account"
  | notLive point => some ("Cell " ++ point.text ++ " is not live anymore")
  | send f => f.message?.map ("Send transaction error: " ++ ·)
  | inconsistent sent expected =>
    some ("Node returned transaction hash " ++ sent.hexText ++ ", expected " ++ expected.hexText)

/-- What the fault is about. -/
def kind : TransferFault → FaultKind
  | request f => f.kind
  | node f => f.kind
  | keyring f => f.kind
  | bind f => f.kind
  | draft f => f.kind
  | molecule f => f.kind
  | number _ => .value
  | insufficient _ _ => .funds
  | fee _ | feeWithRest _ => .ceiling
  | noKeyring => .mismatch
  | notLive _ | send _ => .transport
  | inconsistent _ _ => .consistency

/-- What stands for a fault without words. -/
def wordless : String := "<dropped>"

/-- The fault in words, or the mark. -/
def text (f : TransferFault) : String := f.message?.getD wordless

end TransferFault

instance : Fault TransferFault := ⟨TransferFault.kind, TransferFault.message?⟩

end CellPurse
