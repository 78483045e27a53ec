import CellPurse.Fault
import CellPurse.Keys.Signer
import CellPurse.Ledger.Genesis
import CellPurse.Ledger.Multisig
import CellPurse.Ledger.Witness

/-!
# CellPurse.Transfer.Draft — transactions in the making

A draft gathers inputs, outputs, policies and signatures until it is finished.  Inputs with one lock form a group; each
group needs signatures of one digest, and they go into the witness of its first input.

* `Draft.addPolicy`, `Draft.addInput`, `Draft.addOutput`, `Draft.addSignature`: the steps; a step that fails leaves the
  draft as it was;
* `Draft.requests`: the digest and the candidates of every group;
* `Draft.sign`: one signature per group from a signer;
* `Draft.finish`: the transaction with its witnesses; nothing can be added after it.
-/

namespace CellPurse

/-- What a draft refuses. -/
inductive DraftFault where
  | finalized
  /-- No policy is known for the lock of this input. -/
  | inputPolicy (point : OutPoint)
  /-- The lock of this input is no system lock. -/
  | inputLock (point : OutPoint)
  /-- No policy is known for a lock with these arguments. -/
  | noPolicy (args : Bytes)
  /-- Nobody can sign for a lock with these arguments. -/
  | noKey (args : Bytes)
  | signatureLength (n : Nat)
  | fewSignatures (args : Bytes) (count : Nat) (threshold : Int)
  | noSignature (args : Bytes)
  | molecule (f : MoleculeFault)
  | policy (f : MultisigFault)
  | signer (f : SignFault)
  deriving DecidableEq, Repr

/-- The fault in words. -/
def DraftFault.message? : DraftFault → Option String
  | finalized => some "Transaction is already finalized"
  | inputPolicy p => some ("No multisig config registered for input " ++ p.text)
  | inputLock p => some ("Input " ++ p.text ++ " is locked by an unsupported lock script")
  | noPolicy args => some ("No multisig config registered for lock args " ++ args.hexText)
  | noKey args => some ("No key available to sign inputs locked by args " ++ args.hexText)
  | signatureLength n => some ("Invalid signature length: " ++ toString n)
  | fewSignatures args count threshold =>
    some ("Multisig lock " ++ args.hexText ++ " has " ++ toString count ++ " of " ++ toString threshold ++
      " required signatures")
  | noSignature args => some ("Missing signature for lock args " ++ args.hexText)
  | molecule f => f.message?
  | policy f => some f.message
  | signer f => f.message?

/-- What the fault is about. -/
def DraftFault.kind : DraftFault → FaultKind
  | .finalized => .finalized
  | .signatureLength _ => .value
  | .molecule f => f.kind
  | .policy f => f.kind
  | .signer f => f.kind
  | _ => .mismatch

instance : Fault DraftFault := ⟨DraftFault.kind, fun f => f.message?⟩

/-- A cell to spend, and its lock. -/
structure DraftInput where
  input : CellInput
  lock : Script
  deriving DecidableEq, Repr

/-- A cell to make, and its data. -/
structure DraftOutput where
  output : CellOutput
  data : Bytes
  deriving DecidableEq, Repr

/-- What has to be signed for the inputs of one lock. -/
structure SigningRequest where
  lock : Script
  candidates : List Bytes
  digest : Bytes
  deriving DecidableEq, Repr

/-- A transaction in the making. -/
structure Draft where
  genesis : Genesis
  inputs : List DraftInput := []
  outputs : List DraftOutput := []
  /-- Policies by their hashes. -/
  policies : Assoc Bytes Multisig := []
  /-- Signatures by lock. -/
  signatures : Assoc Script (List Bytes) := []
  finalized : Bool := false
  deriving DecidableEq, Repr

namespace Draft

/-! ## Steps -/

/-- Refuses a finished draft. -/
def guard (d : Draft) : Except DraftFault Unit := if d.finalized then .error .finalized else .ok ()

/-- Adds a policy under its hash. -/
def addPolicy (d : Draft) (policy : Multisig) : Except DraftFault Draft := do
  d.guard
  let hash ← policy.hash.mapError .policy
  pure { d with policies := d.policies.set hash policy }

/-- The hash of the policy in the arguments of a multisig lock. -/
def policyHash (lock : Script) : Bytes := lock.args.take System.keyHashSize

/-- The time lock that an input with a given lock claims: the one in the arguments of a locked multisig cell. -/
def sinceOf (lock : Script) : Nat :=
  if lock.isMultisig && lock.args.length = System.lockedArgsSize then
    Bytes.toNatLE (lock.args.drop System.keyHashSize)
  else 0

/-- The lock of an input is a system lock, and its policy is known. -/
def checkLock (d : Draft) (point : OutPoint) (lock : Script) : Except DraftFault Unit :=
  if lock.isMultisig then
    if d.policies.has (policyHash lock) then .ok () else .error (.inputPolicy point)
  else if lock.isSighash then .ok ()
  else .error (.inputLock point)

/-- Adds a cell to spend. -/
def addInput (d : Draft) (point : OutPoint) (cell : CellOutput) (skipCheck : Bool := false) :
    Except DraftFault Draft := do
  d.guard
  if !skipCheck then d.checkLock point cell.lock
  pure { d with inputs := d.inputs ++ [⟨⟨point, sinceOf cell.lock⟩, cell.lock⟩] }

/-- Adds a cell to make. -/
def addOutput (d : Draft) (output : CellOutput) (data : Bytes := []) : Except DraftFault Draft := do
  d.guard
  pure { d with outputs := d.outputs ++ [⟨output, data⟩] }

/-- The signatures of a lock. -/
def signaturesOf (d : Draft) (lock : Script) : List Bytes := (d.signatures.get? lock).getD []

/-- Adds a signature for a lock, once. -/
def addSignature (d : Draft) (lock : Script) (signature : Bytes) : Except DraftFault Draft := do
  d.guard
  if signature.length ≠ System.signatureSize then throw (.signatureLength signature.length)
  let group := d.signaturesOf lock
  pure { d with
    signatures := d.signatures.set lock (if group.contains signature then group else group ++ [signature]) }

/-! ## The transaction -/

/-- The locks of the inputs. -/
def locks (d : Draft) : List Script := d.inputs.map DraftInput.lock

/-- The cells with the code of the locks. -/
def cellDeps (d : Draft) : List CellDep :=
  (if d.locks.any Script.isSighash then [d.genesis.sighashDep] else []) ++
    if d.locks.any Script.isMultisig then [d.genesis.multisigDep] else []

/-- Adds an input to the group of its lock. -/
def joinGroup (groups : Assoc Script (List Nat)) (e : Script × Nat) : Assoc Script (List Nat) :=
  groups.set e.1 ((groups.get? e.1).getD [] ++ [e.2])

/-- The places of the inputs of each lock, in the order in which the locks first come. -/
def groups (d : Draft) : Assoc Script (List Nat) := d.locks.zipIdx.foldl joinGroup []

/-- The transaction without signatures. -/
def unsigned (d : Draft) : Transaction where
  cellDeps := d.cellDeps
  inputs := d.inputs.map DraftInput.input
  outputs := d.outputs.map DraftOutput.output
  outputsData := d.outputs.map DraftOutput.data
  witnesses := d.inputs.map fun _ => []

/-! ## Signing -/

/-- The policy of a multisig lock. -/
def policyOf (d : Draft) (lock : Script) : Except DraftFault Multisig :=
  match d.policies.get? (policyHash lock) with
  | some policy => .ok policy
  | none => .error (.noPolicy lock.args)

/-- What the witness of a lock holds while it is signed. -/
def placeholder (d : Draft) (lock : Script) : Except DraftFault Bytes :=
  if lock.isMultisig then do
    let policy ← d.policyOf lock
    policy.placeholder.mapError .policy
  else .ok (Bytes.zeros System.signatureSize)

/-- The keys that may sign for a lock. -/
def candidates (d : Draft) (lock : Script) : Except DraftFault (List Bytes) :=
  if lock.isMultisig then do
    let policy ← d.policyOf lock
    pure policy.keys
  else .ok [lock.args]

/-- A witness after its length. -/
def measured (witness : Bytes) : Bytes := Bytes.ofNatLE 8 witness.length ++ witness

/-- What is signed for a group: the hash of the transaction, and the witnesses of the group, all but the first of which
are empty. -/
def digest (txHash first : Bytes) (rest : Nat) : Bytes :=
  Hash.chain (txHash ++ measured first ++ (List.replicate rest (measured [])).flatten)

/-- The witness with a lock part. -/
def witness (lock : Bytes) : Except DraftFault Bytes := (Witness.serialize { lock := some lock }).mapError .molecule

/-- What has to be signed for a group. -/
def request (d : Draft) (txHash : Bytes) (group : Script × List Nat) : Except DraftFault SigningRequest := do
  let first ← witness (← d.placeholder group.1)
  let candidates ← d.candidates group.1
  pure ⟨group.1, candidates, digest txHash first (group.2.length - 1)⟩

/-- What has to be signed. -/
def requests (d : Draft) : Except DraftFault (List SigningRequest) := do
  let txHash ← d.unsigned.hash.mapError .molecule
  d.groups.mapM (d.request txHash)

/-- Asks for a signature per request. -/
def signAll {m : Type → Type} [Monad m] (ask : List Bytes → Bytes → ExceptT SignFault m (Option Bytes)) :
    List SigningRequest → ExceptT DraftFault m (List (Script × Bytes))
  | [] => pure []
  | q :: r => do
    match ← ExceptT.adapt DraftFault.signer (ask q.candidates q.digest) with
    | none => throw (.noKey q.lock.args)
    | some signature =>
      let rest ← signAll ask r
      pure ((q.lock, signature) :: rest)

/-- One signature per group. -/
def sign {m : Type → Type} [Monad m] (d : Draft) (ask : List Bytes → Bytes → ExceptT SignFault m (Option Bytes)) :
    ExceptT DraftFault m (List (Script × Bytes)) := do
  let requests ← ExceptT.mk (pure d.requests)
  signAll ask requests

/-- What the witness of a lock holds at the end: the signature, or the policy and as many signatures as it asks for. -/
def signedLock (d : Draft) (lock : Script) : Except DraftFault Bytes :=
  let signatures := d.signaturesOf lock
  if lock.isMultisig then do
    let policy ← d.policyOf lock
    if (signatures.length : Int) < policy.threshold then
      throw (.fewSignatures lock.args signatures.length policy.threshold)
    let data ← policy.witnessData.mapError .policy
    pure (data ++ (signatures.take policy.threshold.toNat).flatten)
  else match signatures with
    | signature :: _ => .ok signature
    | [] => .error (.noSignature lock.args)

/-- Places the witness of a group. -/
def placeWitness (d : Draft) (witnesses : List Bytes) (group : Script × List Nat) :
    Except DraftFault (List Bytes) := do
  let w ← witness (← d.signedLock group.1)
  pure (witnesses.set (group.2.headD 0) w)

/-- The transaction with its witnesses, and the finished draft. -/
def finish (d : Draft) : Except DraftFault (Transaction × Draft) := do
  let tx := d.unsigned
  let witnesses ← d.groups.foldlM d.placeWitness tx.witnesses
  pure ({ tx with witnesses }, { d with finalized := true })

end Draft

end CellPurse
