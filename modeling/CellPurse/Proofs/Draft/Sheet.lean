import CellPurse.Proofs.Draft.Groups
import CellPurse.Proofs.Draft.Steps

/-!
# CellPurse.Proofs.Draft.Sheet — drafts that are changed in place

A draft may also be kept as lists side by side, the inputs beside their locks and the outputs beside their data, which a
call changes one after the other.  What a call has changed before it fails stays changed.

* `Sheet`: the lists; `Draft.sheet`: those of a draft;
* `Draft.Call`, `Draft.Reply`: the calls, and what they give; `Sheet.act`: a call, change by change;
* `Draft.turn`: the same call by the steps of a draft;
* `act_laid`: both come to the same, so that a call that fails has changed nothing; `run_laid`: the same of histories.
-/

namespace CellPurse

/-- The lists of a draft. -/
structure Sheet where
  genesis : Genesis
  inputs : List CellInput := []
  locks : List Script := []
  outputs : List CellOutput := []
  data : List Bytes := []
  policies : Assoc Bytes Multisig := []
  signatures : Assoc Script (List Bytes) := []
  finalized : Bool := false
  deriving DecidableEq, Repr

namespace Draft

/-- A signer with a memory, as it is asked. -/
abbrev Ask (σ : Type) := List Bytes → Bytes → ExceptT SignFault (StateM σ) (Option Bytes)

/-- What can be asked of a draft. -/
inductive Call (σ : Type) where
  | policy (policy : Multisig)
  | input (point : OutPoint) (cell : CellOutput) (skipCheck : Bool)
  | output (output : CellOutput) (data : Bytes)
  | signature (lock : Script) (signature : Bytes)
  | requests
  | sign (ask : Ask σ)
  | finish

/-- What a call gives. -/
inductive Reply where
  | done
  | requests (requests : List SigningRequest)
  | signatures (signatures : List (Script × Bytes))
  | transaction (tx : Transaction)
  deriving DecidableEq, Repr

/-- The lists of a draft. -/
def sheet (d : Draft) : Sheet where
  genesis := d.genesis
  inputs := d.inputs.map DraftInput.input
  locks := d.inputs.map DraftInput.lock
  outputs := d.outputs.map DraftOutput.output
  data := d.outputs.map DraftOutput.data
  policies := d.policies
  signatures := d.signatures
  finalized := d.finalized

end Draft

namespace Sheet

open Draft

variable {σ : Type}

/-! ## Reading -/

/-- The signatures of a lock. -/
def signaturesOf (s : Sheet) (lock : Script) : List Bytes := (s.signatures.get? lock).getD []

theorem signaturesOf_set (s : Sheet) (lock other : Script) (group : List Bytes) :
    signaturesOf { s with signatures := s.signatures.set lock group } other =
      if lock = other then group else s.signaturesOf other := by
  unfold signaturesOf
  rw [Assoc.get?_set]
  split <;> rfl

/-- The cells with the code of the locks. -/
def cellDeps (s : Sheet) : List CellDep :=
  (if s.locks.any Script.isSighash then [s.genesis.sighashDep] else []) ++
    if s.locks.any Script.isMultisig then [s.genesis.multisigDep] else []

/-- The transaction without signatures. -/
def unsigned (s : Sheet) : Transaction where
  cellDeps := s.cellDeps
  inputs := s.inputs
  outputs := s.outputs
  outputsData := s.data
  witnesses := s.inputs.map fun _ => []

/-- The policies and the signatures: all that is known of a lock. -/
def known (s : Sheet) : Draft where
  genesis := s.genesis
  policies := s.policies
  signatures := s.signatures

/-- What has to be signed. -/
def requests (s : Sheet) : Except DraftFault (List SigningRequest) := do
  let txHash ← s.unsigned.hash.mapError .molecule
  (groupsOf s.locks).mapM (s.known.request txHash)

/-! ## Changes -/

/-- Work on a sheet, which keeps what is changed before a fault. -/
abbrev Work (σ α : Type) := ExceptT DraftFault (StateT Sheet (StateM σ)) α

/-- Ends with what was found. -/
def conclude {α : Type} (found : Except DraftFault α) : Work σ α := ExceptT.mk (pure found)

/-- Refuses a finished sheet. -/
def checkOpen : Work σ Unit := do
  if (← get).finalized then throw .finalized

/-- The lock of an input is a system lock, and its policy is known. -/
def checkInput (point : OutPoint) (lock : Script) (skipCheck : Bool) : Work σ Unit := do
  if lock.isMultisig then
    if !skipCheck && !(← get).policies.has (policyHash lock) then throw (.inputPolicy point)
  else if !lock.isSighash && !skipCheck then throw (.inputLock point)

/-- Adds a policy under its hash. -/
def addPolicy (policy : Multisig) : Work σ Unit := do
  checkOpen
  let hash ← conclude (policy.hash.mapError .policy)
  modify fun s => { s with policies := s.policies.set hash policy }

/-- Adds a cell to spend, and then its lock. -/
def addInput (point : OutPoint) (cell : CellOutput) (skipCheck : Bool) : Work σ Unit := do
  checkOpen
  checkInput point cell.lock skipCheck
  modify fun s => { s with inputs := s.inputs ++ [⟨point, sinceOf cell.lock⟩] }
  modify fun s => { s with locks := s.locks ++ [cell.lock] }

/-- Adds a cell to make, and then its data. -/
def addOutput (output : CellOutput) (data : Bytes) : Work σ Unit := do
  checkOpen
  modify fun s => { s with outputs := s.outputs ++ [output] }
  modify fun s => { s with data := s.data ++ [data] }

/-- Adds a signature for a lock, once.  The lock has its list before it has the signature. -/
def addSignature (lock : Script) (signature : Bytes) : Work σ Unit := do
  checkOpen
  if signature.length ≠ System.signatureSize then throw (.signatureLength signature.length)
  modify fun s => { s with signatures := s.signatures.set lock (s.signaturesOf lock) }
  if !((← get).signaturesOf lock).contains signature then
    modify fun s => { s with signatures := s.signatures.set lock (s.signaturesOf lock ++ [signature]) }

/-- One signature per group. -/
def sign (ask : Ask σ) : Work σ (List (Script × Bytes)) := do
  let requests ← conclude (← get).requests
  ExceptT.mk (StateT.lift (signAll ask requests).run)

/-- The transaction with its witnesses; the sheet is finished once they are there. -/
def finish : Work σ Transaction := do
  let s ← get
  let tx := s.unsigned
  let witnesses ← conclude ((groupsOf s.locks).foldlM s.known.placeWitness tx.witnesses)
  modify fun s => { s with finalized := true }
  pure { tx with witnesses }

/-- A call, change by change. -/
def perform : Call σ → Work σ Reply
  | .policy policy => (fun _ => .done) <$> addPolicy policy
  | .input point cell skipCheck => (fun _ => .done) <$> addInput point cell skipCheck
  | .output output data => (fun _ => .done) <$> addOutput output data
  | .signature lock signature => (fun _ => .done) <$> addSignature lock signature
  | .requests => do
    let requests ← conclude (← get).requests
    pure (.requests requests)
  | .sign ask => .signatures <$> sign ask
  | .finish => .transaction <$> finish

/-! ## Runs -/

/-- How work ends, and what is there then of the sheet and of the memory of signers. -/
def runAt {α : Type} (x : Work σ α) (p : Sheet × σ) : Except DraftFault α × (Sheet × σ) :=
  (((x.run.run p.1).run p.2).1.1, (((x.run.run p.1).run p.2).1.2, ((x.run.run p.1).run p.2).2))

/-- A call on a sheet. -/
def act (c : Call σ) (p : Sheet × σ) : Except DraftFault Reply × (Sheet × σ) := runAt (perform c) p

/-- What calls leave, whether they fail or not. -/
def run (calls : List (Call σ)) (p : Sheet × σ) : Sheet × σ := calls.foldl (fun p c => (act c p).2) p

section Runs

variable {α β : Type} {p : Sheet × σ}

@[simp] theorem runAt_bind (x : Work σ α) (f : α → Work σ β) : runAt (x >>= f) p = match runAt x p with
    | (.ok a, p') => runAt (f a) p'
    | (.error e, p') => (.error e, p') := by
  unfold runAt
  rw [ExceptT.run_bind, StateT.run_bind, StateT.run_bind]
  rcases StateT.run (x.run.run p.1) p.2 with ⟨⟨_ | _, s⟩, w⟩ <;> rfl

@[simp] theorem runAt_map (g : α → β) (x : Work σ α) : runAt (g <$> x) p = ((runAt x p).1.map g, (runAt x p).2) := by
  rw [map_eq_pure_bind, runAt_bind]
  rcases runAt x p with ⟨_ | _, p'⟩ <;> rfl

@[simp] theorem runAt_pure (a : α) : runAt (pure a : Work σ α) p = (.ok a, p) := rfl

@[simp] theorem runAt_throw (f : DraftFault) : runAt (throw f : Work σ α) p = (.error f, p) := rfl

@[simp] theorem runAt_conclude (found : Except DraftFault α) : runAt (conclude found) p = (found, p) := rfl

@[simp] theorem runAt_get : runAt (get : Work σ Sheet) p = (.ok p.1, p) := rfl

@[simp] theorem runAt_modify (f : Sheet → Sheet) : runAt (modify f : Work σ Unit) p = (.ok (), (f p.1, p.2)) := rfl

theorem runAt_checkOpen : runAt checkOpen p = (if p.1.finalized then .error .finalized else .ok (), p) := by
  unfold checkOpen
  cases h : p.1.finalized <;> simp [h]

/-- Work on a finished sheet is refused before anything is changed. -/
theorem runAt_checkOpen_bind (x : Work σ α) :
    runAt (checkOpen >>= fun _ => x) p = if p.1.finalized then (.error .finalized, p) else runAt x p := by
  rw [runAt_bind, runAt_checkOpen]
  cases p.1.finalized <;> rfl

theorem runAt_checkInput (point : OutPoint) (lock : Script) (skipCheck : Bool) :
    runAt (checkInput point lock skipCheck) p = (if skipCheck then .ok () else p.1.known.checkLock point lock, p) := by
  have hpolicies : p.1.known.policies = p.1.policies := rfl
  unfold checkInput checkLock
  rw [hpolicies]
  cases hm : lock.isMultisig with
  | true => cases skipCheck <;> cases hp : p.1.policies.has (policyHash lock) <;> simp [hp, Except.map]
  | false => cases skipCheck <;> cases lock.isSighash <;> simp

end Runs

end Sheet

namespace Draft

variable {σ : Type}

/-! ## Steps -/

/-- What a step comes to; one that fails leaves the draft as it was. -/
def settle {α : Type} (q : Draft × σ) (found : Except DraftFault (α × Draft)) : Except DraftFault α × (Draft × σ) :=
  match found with
  | .ok (a, d) => (.ok a, (d, q.2))
  | .error f => (.error f, q)

@[simp] theorem settle_pure {α : Type} (q : Draft × σ) (a : α) (d : Draft) :
    settle q (pure (a, d)) = (.ok a, (d, q.2)) := rfl

@[simp] theorem settle_ok {α : Type} (q : Draft × σ) (a : α) (d : Draft) :
    settle q (.ok (a, d)) = (.ok a, (d, q.2)) := rfl

@[simp] theorem settle_error {α : Type} (q : Draft × σ) (f : DraftFault) :
    settle q (.error f : Except DraftFault (α × Draft)) = (.error f, q) := rfl

/-- A call, by the steps of a draft. -/
def turn (c : Call σ) (q : Draft × σ) : Except DraftFault Reply × (Draft × σ) :=
  match c with
  | .policy policy => settle q ((.done, ·) <$> q.1.addPolicy policy)
  | .input point cell skipCheck => settle q ((.done, ·) <$> q.1.addInput point cell skipCheck)
  | .output output data => settle q ((.done, ·) <$> q.1.addOutput output data)
  | .signature lock signature => settle q ((.done, ·) <$> q.1.addSignature lock signature)
  | .requests => settle q ((.requests ·, q.1) <$> q.1.requests)
  | .sign ask =>
    let (made, w) := (q.1.sign ask).run.run q.2
    (.signatures <$> made, (q.1, w))
  | .finish => settle q ((fun (tx, d) => (.transaction tx, d)) <$> q.1.finish)

/-- What calls leave, whether they fail or not. -/
def run (calls : List (Call σ)) (q : Draft × σ) : Draft × σ := calls.foldl (fun q c => (turn c q).2) q

/-- The lists of a draft, beside the memory of signers. -/
def laid (q : Draft × σ) : Sheet × σ := (q.1.sheet, q.2)

end Draft

/-! ## Calls in place -/

namespace Sheet

open Draft

variable {σ : Type} {q : Draft × σ}

/-- A sheet is refused when its draft is. -/
theorem runAt_open_bind {x : Work σ Unit} {step : Except DraftFault Draft}
    (h : runAt x (laid q) = (settle q (((), ·) <$> step)).map id laid) :
    runAt (checkOpen >>= fun _ => x) (laid q) =
      (settle q (((), ·) <$> (q.1.guard >>= fun _ => step))).map id laid := by
  have hopen : (laid q).1.finalized = q.1.finalized := rfl
  rw [runAt_checkOpen_bind, guard_bind, hopen]
  by_cases hf : q.1.finalized = true
  · rw [if_pos hf, if_pos hf]
    rfl
  · rw [if_neg hf, if_neg hf, h]

theorem runAt_addPolicy (policy : Multisig) (q : Draft × σ) :
    runAt (addPolicy policy) (laid q) = (settle q (((), ·) <$> q.1.addPolicy policy)).map id laid := by
  unfold addPolicy Draft.addPolicy
  refine runAt_open_bind ?_
  cases policy.hash <;> rfl

theorem runAt_addInput (point : OutPoint) (cell : CellOutput) (skipCheck : Bool) (q : Draft × σ) :
    runAt (addInput point cell skipCheck) (laid q) =
      (settle q (((), ·) <$> q.1.addInput point cell skipCheck)).map id laid := by
  have hcheck : (laid q).1.known.checkLock point cell.lock = q.1.checkLock point cell.lock := rfl
  unfold addInput Draft.addInput
  refine runAt_open_bind ?_
  rw [runAt_bind, runAt_checkInput, hcheck]
  cases skipCheck with
  | true => simp [laid, sheet]
  | false =>
    cases q.1.checkLock point cell.lock with
    | error f => rfl
    | ok u => simp [laid, sheet]

theorem runAt_addOutput (output : CellOutput) (data : Bytes) (q : Draft × σ) :
    runAt (addOutput output data) (laid q) = (settle q (((), ·) <$> q.1.addOutput output data)).map id laid := by
  unfold addOutput Draft.addOutput
  refine runAt_open_bind ?_
  simp [laid, sheet]

theorem runAt_addSignature (lock : Script) (signature : Bytes) (q : Draft × σ) :
    runAt (addSignature lock signature) (laid q) =
      (settle q (((), ·) <$> q.1.addSignature lock signature)).map id laid := by
  have hlaid : (laid q).1.signaturesOf lock = q.1.signaturesOf lock := rfl
  unfold addSignature Draft.addSignature
  refine runAt_open_bind ?_
  by_cases hs : signature.length = System.signatureSize
  · rw [if_neg (not_not.mpr hs)]
    simp only [runAt_bind, runAt_modify, runAt_get, signaturesOf_set, if_true, hlaid]
    by_cases hmem : signature ∈ q.1.signaturesOf lock
    · simp [hs, hmem]
      rfl
    · simp [hs, hmem, signaturesOf_set, Assoc.set_set]
      rfl
  · simp [hs]
    rfl

theorem unsigned_sheet (d : Draft) : d.sheet.unsigned = d.unsigned := by
  simp [unsigned, cellDeps, Draft.unsigned, Draft.cellDeps, sheet, Draft.locks, Function.comp_def]

theorem requests_sheet (d : Draft) : d.sheet.requests = d.requests := by
  unfold requests Draft.requests
  rw [unsigned_sheet]
  rfl

theorem runAt_sign (ask : Ask σ) (q : Draft × σ) :
    runAt (sign ask) (laid q) = (((q.1.sign ask).run.run q.2).1, laid (q.1, ((q.1.sign ask).run.run q.2).2)) := by
  have hrequests : (laid q).1.requests = q.1.requests := requests_sheet q.1
  unfold sign Draft.sign
  simp only [runAt_bind, runAt_get, runAt_conclude, hrequests]
  cases q.1.requests <;> rfl

theorem runAt_finish (q : Draft × σ) : runAt finish (laid q) = (settle q q.1.finish).map id laid := by
  have hunsigned : (laid q).1.unsigned = q.1.unsigned := unsigned_sheet q.1
  have hplace : (groupsOf (laid q).1.locks).foldlM (laid q).1.known.placeWitness q.1.unsigned.witnesses =
      q.1.groups.foldlM q.1.placeWitness q.1.unsigned.witnesses := rfl
  unfold finish Draft.finish
  rw [runAt_bind, runAt_get]
  simp only [hunsigned]
  rw [runAt_bind, runAt_conclude, hplace]
  cases q.1.groups.foldlM q.1.placeWitness q.1.unsigned.witnesses <;> rfl

/-- What is added is answered as the step is. -/
theorem runAt_done {x : Work σ Unit} {step : Except DraftFault Draft}
    (h : runAt x (laid q) = (settle q (((), ·) <$> step)).map id laid) :
    runAt ((fun _ => Reply.done) <$> x) (laid q) = (settle q ((Reply.done, ·) <$> step)).map id laid := by
  rw [runAt_map, h]
  cases step <;> rfl

/-- **A call in place does what the step of a draft does**, so that one that fails has changed nothing. -/
theorem act_laid (c : Call σ) (q : Draft × σ) : act c (laid q) = (turn c q).map id laid := by
  cases c with
  | policy policy => exact runAt_done (runAt_addPolicy policy q)
  | input point cell skipCheck => exact runAt_done (runAt_addInput point cell skipCheck q)
  | output output data => exact runAt_done (runAt_addOutput output data q)
  | signature lock signature => exact runAt_done (runAt_addSignature lock signature q)
  | requests =>
    have hrequests : (laid q).1.requests = q.1.requests := requests_sheet q.1
    unfold act perform turn
    simp only [runAt_bind, runAt_get, runAt_conclude, hrequests]
    cases q.1.requests <;> rfl
  | sign ask =>
    unfold act perform turn
    rw [runAt_map, runAt_sign]
    rfl
  | finish =>
    unfold act perform turn
    rw [runAt_map, runAt_finish]
    cases q.1.finish <;> rfl

/-- Calls in place leave what the steps of a draft leave. -/
theorem run_laid (calls : List (Call σ)) (q : Draft × σ) : run calls (laid q) = laid (Draft.run calls q) := by
  unfold run Draft.run
  refine List.foldl_hom laid fun q c => ?_
  rw [act_laid]
  rfl

end Sheet

end CellPurse
