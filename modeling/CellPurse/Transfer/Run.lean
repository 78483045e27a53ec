import CellPurse.Transfer.Funding

/-!
# CellPurse.Transfer.Run — a transfer from request to answer

A run goes through its stages in order: it validates the request, resolves the locks that pay, searches their cells,
balances inputs and outputs, signs, and hands the transaction to the node.  It ends submitted, or fails in some stage;
nothing leaves the purse before the last step.

* `Stage`: where a run is; `Report`: how it ended, and the stages that it entered;
* `Transfer.run`: the run of one request.  Nothing is kept from one run to the next.
-/

namespace CellPurse

/-- Where a run is. -/
inductive Stage where
  | validating
  | resolving
  | searching
  | balancing
  | signing
  | finalizing
  | submitted
  | failed
  deriving DecidableEq, Repr

/-- The word of a stage. -/
def Stage.name : Stage → String
  | validating => "validating"
  | resolving => "resolving_identities"
  | searching => "searching_funds"
  | balancing => "balancing"
  | signing => "signing_inputs"
  | finalizing => "finalizing"
  | submitted => "submitted"
  | failed => "failed"

/-- How a run ended. -/
structure Report where
  result : Except TransferFault Transaction
  /-- The stages in the order in which they were entered. -/
  trail : List Stage

namespace Report

/-- The last stage. -/
def stage (r : Report) : Stage := r.trail.getLastD .validating

/-- Why the run failed, in words. -/
def reason? (r : Report) : Option String :=
  match r.result with
  | .ok _ => none
  | .error f => some f.text

end Report

/-- What a transfer works with. -/
structure Wallet (m : Type → Type) where
  node : Node m
  index : Index
  network : Network
  keyring : Option Keyring := none
  limits : Limits := .usual

namespace Transfer

variable {m : Type → Type} [Monad m] [Journal m]

/-! ## The work of the stages -/

/-- The order of a request; a good locked source is noted. -/
def validated (w : Wallet m) (request : Request) : ExceptT TransferFault m Order := do
  let payer ← Funding.step ((request.payer w.network w.keyring.isSome).mapError .request)
  let locked ← Funding.step ((request.locked w.network).mapError .request)
  match locked with
  | some source => Journal.debug source.unlockText
  | none => pure ()
  Funding.step ((request.order w.network w.limits payer locked).mapError .request)

/-- What is left after the amount and the fee, if the fee is not too high. -/
def rest (limits : Limits) (order : Order) (selected : Nat) : Except TransferFault Int :=
  if limits.fee < order.fee then .error (.fee limits.fee)
  else
    let left : Int := selected - order.amount - order.fee
    if left < limits.cell ∧ limits.fee < order.fee + left then .error (.feeWithRest limits.fee) else .ok left

/-- A cell as the node has it; each is asked for once. -/
def fetch (node : Node m) (known : Assoc OutPoint CellBody) (point : OutPoint) :
    ExceptT TransferFault m (CellBody × Assoc OutPoint CellBody) :=
  match known.get? point with
  | some cell => pure (cell, known)
  | none => do
    match ← ExceptT.adapt TransferFault.node (node.cell point false) with
    | none => throw (.notLive point)
    | some cell => pure (cell, known.set point cell)

/-- Adds cells as inputs. -/
def addInputs (node : Node m) (skipCheck : Bool) :
    Assoc OutPoint CellBody → Draft → List LiveCell → ExceptT TransferFault m Draft
  | _, draft, [] => pure draft
  | known, draft, c :: r => do
    let (cell, known) ← fetch node known c.outPoint
    let draft ← Funding.step ((draft.addInput c.outPoint cell.output skipCheck).mapError .draft)
    addInputs node skipCheck known draft r

/-- Adds the payment, and the change unless it is too little for a cell. -/
def addOutputs (limits : Limits) (order : Order) (changeLock : Script) (left : Int) (draft : Draft) :
    Except DraftFault Draft := do
  let draft ← draft.addOutput { capacity := order.amount, lock := order.destination.script } order.data
  if limits.cell ≤ left then draft.addOutput { capacity := left, lock := changeLock } else pure draft

/-- Adds inputs and outputs. -/
def balance (w : Wallet m) (order : Order) (funding : Funding) (s : Selection) (skipCheck : Bool) (draft : Draft) :
    ExceptT TransferFault m Draft := do
  let left ← Funding.step (rest w.limits order s.capacity)
  let draft ← addInputs w.node skipCheck [] draft s.cells
  let draft ← Funding.step ((addOutputs w.limits order funding.changeLock left draft).mapError .draft)
  if 0 < left ∧ left < w.limits.cell then Journal.info ("Change " ++ Amount.text left ++ " is added to the fee")
  pure draft

/-- The signer of an order. -/
def signer (keyring : Option Keyring) (order : Order) (entries : List KeyEntry) : Except TransferFault (Signer Id) :=
  match order.payer, keyring with
  | .secret secret, _ => .ok ⟨.ofSecret secret, order.payer.keyHash, []⟩
  | .account account password, some ring => .ok ⟨.ofAccount ring account password, account, entries⟩
  | .account _ _, none => .error .noKeyring

/-- Adds signatures. -/
def addSignatures (draft : Draft) (signatures : List (Script × Bytes)) : Except DraftFault Draft :=
  signatures.foldlM (fun d s => d.addSignature s.1 s.2) draft

/-- Signs the draft. -/
def signed (w : Wallet m) (order : Order) (funding : Funding) (draft : Draft) : ExceptT TransferFault m Draft := do
  let signer ← Funding.step (signer w.keyring order funding.entries)
  let signatures ← Funding.step ((draft.sign signer.sign).run.mapError .draft)
  Journal.debug ("Signed " ++ toString signatures.length ++ " lock group(s)")
  Funding.step ((addSignatures draft signatures).mapError .draft)

/-- A refusal of the node to take a transaction. -/
def refused (f : NodeFault) : TransferFault := if f.isTransport then .send f else .node f

/-- Finishes the draft and hands the transaction to the node. -/
def submit (w : Wallet m) (draft : Draft) : ExceptT TransferFault m Transaction := do
  let (tx, _) ← Funding.step (draft.finish.mapError .draft)
  let hash ← Funding.step (tx.hash.mapError .molecule)
  Journal.info ("Sending transaction " ++ hash.hexText)
  let sent ← ExceptT.adapt refused (w.node.send tx)
  if sent = hash then pure tx else throw (.inconsistent sent hash)

/-! ## The run -/

/-- A run, which may fail and keeps the stages that it entered. -/
abbrev Running (m : Type → Type) := ExceptT TransferFault (StateT (List Stage) m)

/-- Enters a stage. -/
def enter (s : Stage) : Running m Unit := do
  modify (· ++ [s])
  Journal.info ("Transfer state: " ++ s.name)

/-- The work of a stage. -/
def work {α : Type} (x : ExceptT TransferFault m α) : Running m α := ExceptT.mk (StateT.lift x.run)

/-- The stages of a run. -/
def stages (w : Wallet m) (request : Request) (skipCheck : Bool) : Running m Transaction := do
  enter .validating
  let order ← work (validated w request)
  enter .resolving
  let genesis ← work (ExceptT.adapt TransferFault.node w.node.genesis)
  let (funding, draft) ← work (Funding.resolve w.keyring w.limits order { genesis })
  enter .searching
  let cutoff ← work (ExceptT.adapt TransferFault.node w.node.cutoff)
  let s ← work (Funding.search w.network cutoff w.index order funding)
  enter .balancing
  let draft ← work (balance w order funding s skipCheck draft)
  enter .signing
  let draft ← work (signed w order funding draft)
  enter .finalizing
  let tx ← work (submit w draft)
  enter .submitted
  pure tx

/-- The run of one request. -/
def run (w : Wallet m) (request : Request) (skipCheck : Bool := false) : m Report := do
  let (result, trail) ← (stages w request skipCheck).run.run []
  match result with
  | .ok tx => pure ⟨.ok tx, trail⟩
  | .error f => do
    Journal.error ("Transfer failed while " ++ (trail.getLastD .validating).name ++ ": " ++ f.text)
    pure ⟨.error f, trail ++ [.failed]⟩

end Transfer

end CellPurse
