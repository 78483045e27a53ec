import CellPurse.Address.Basic
import CellPurse.Epoch.Since
import CellPurse.Fault
import CellPurse.Ledger.Multisig

/-!
# CellPurse.Transfer.LockedSource — cells under a time lock

The arguments of a locked multisig cell are the hash of a policy and a time lock.  Only a lock that counts epochs from
the start of the chain is taken as a source.

* `LockedArgs.parse`: the two parts of the arguments; of several faults the first in the order of `LockedFault` counts;
* `LockedSource.ofAddress`: an address with such arguments;
* `LockedSource.bind`: the policy of one key that the source was made for, among some keys.
-/

namespace CellPurse

/-- Why arguments are no locked source. -/
inductive LockedFault where
  | length (n : Nat)
  /-- A reserved bit is set, or no metric has these bits. -/
  | flags
  | relative
  | notEpoch
  deriving DecidableEq, Repr

namespace LockedFault

/-- The word of a fault. -/
def name : LockedFault → String
  | length _ => "invalid_length"
  | flags => "invalid_flags"
  | relative => "not_absolute"
  | notEpoch => "not_epoch"

/-- The fault in words. -/
def message (f : LockedFault) : String :=
  "Invalid from-locked-address's args: " ++ match f with
    | length n => "invalid " ++ toString n
    | flags => "invalid since flags"
    | relative => "only support absolute since value"
    | notEpoch => "only support epoch since value"

end LockedFault

instance : Fault LockedFault := ⟨fun f => .locked f.name, fun f => f.message⟩

/-- The arguments of a locked multisig cell. -/
structure LockedArgs where
  policyHash : Bytes
  since : Since
  deriving DecidableEq, Repr

/-- Takes the arguments apart. -/
def LockedArgs.parse (args : Bytes) : Except LockedFault LockedArgs :=
  if args.length ≠ System.lockedArgsSize then .error (.length args.length)
  else match Since.ofBytes (args.drop System.keyHashSize) with
    | .error _ => .error .flags
    | .ok since =>
      if !since.isAbsolute then .error .relative
      else if since.metric ≠ .epochNumber then .error .notEpoch
      else .ok ⟨args.take System.keyHashSize, since⟩

/-- An address whose cells are under a time lock. -/
structure LockedSource where
  address : Address
  args : LockedArgs
  deriving DecidableEq, Repr

/-- Why an address is no locked source. -/
inductive LockedSourceFault where
  | notMultisig (address : Address)
  | args (f : LockedFault)
  deriving DecidableEq, Repr

/-- The fault in words. -/
def LockedSourceFault.message : LockedSourceFault → String
  | notMultisig a => "from-locked-address is not a multisig address: " ++ a.encode
  | args f => f.message

/-- What the fault is about. -/
def LockedSourceFault.kind : LockedSourceFault → FaultKind
  | .notMultisig _ => .input
  | .args f => .locked f.name

instance : Fault LockedSourceFault := ⟨LockedSourceFault.kind, fun f => f.message⟩

/-- Why no policy fits a source. -/
inductive BindFault where
  /-- No key is the one of the policy. -/
  | noKey
  | policy (f : MultisigFault)
  deriving DecidableEq, Repr

/-- The fault in words. -/
def BindFault.message : BindFault → String
  | noKey => "from-locked-address is not created from the key or derived keys"
  | policy f => f.message

/-- What the fault is about. -/
def BindFault.kind : BindFault → FaultKind
  | .noKey => .mismatch
  | .policy f => f.kind

instance : Fault BindFault := ⟨BindFault.kind, fun f => f.message⟩

namespace LockedSource

/-- The source at an address. -/
def ofAddress (a : Address) : Except LockedSourceFault LockedSource :=
  if !a.script.hasMultisigCode then .error (.notMultisig a)
  else match LockedArgs.parse a.args with
    | .ok args => .ok ⟨a, args⟩
    | .error f => .error (.args f)

/-- What is said of a source that was found to be good. -/
def unlockText (s : LockedSource) : String :=
  "Locked source " ++ s.address.encode ++ " unlocks at epoch " ++ (Epoch.ofFullValue s.args.since.value).text

/-- The policy of one of the keys, alone, that the source was made for. -/
def bind (s : LockedSource) : List Bytes → Except BindFault Multisig
  | [] => .error .noKey
  | key :: r => do
    let policy ← (Multisig.make [key] 0 1).mapError .policy
    let hash ← policy.hash.mapError .policy
    if hash = s.args.policyHash then pure policy else bind s r

end LockedSource

end CellPurse
