import CellPurse.Proofs.Transfer.Course

/-!
# CellPurse.Proofs.Transfer.Partners — runs with whatever index and keyring

A run asks a node, an index and a keyring.  How the index and the keyring come to their answers is nothing to the run:
they may answer in any way, or fail.

* `Partners`: what an index and a keyring answer in a run; `Wallet.partners`: those of a wallet;
* `stagesWith`, `runWith`: a run with such answers; `run_eq_runWith`: a run is one with the answers of its wallet;
* `withNode w replies`: the wallet with another node;
* `course_stagesWith`: a run takes its stages in order.
-/

namespace CellPurse

open Told

/-- What the index and the keyring answer in a run.  Each of them may fail. -/
structure Partners where
  /-- The derived keys of the payer, with the address for change. -/
  derive : Order → Except TransferFault (Option (DerivedKeys × Address))
  /-- What is selected from the cells of some locks. -/
  select : List Bytes → Selection → Except TransferFault Selection
  /-- Signatures by lock. -/
  sign : Order → Funding → Draft → Except TransferFault (List (Script × Bytes))

section Parts

variable {m : Type → Type} [Monad m] [Journal m]

/-- The answers of a wallet. -/
def Wallet.partners (w : Wallet m) : Partners where
  derive := Funding.derivedKeys w.keyring w.limits
  select lockHashes s := .ok (Funding.select w.index lockHashes s)
  sign order funding draft := do
    let signer ← Transfer.signer w.keyring order funding.entries
    (draft.sign signer.sign).run.mapError .draft

namespace Transfer

/-! ## The work of the stages -/

/-- The locks of the payer, those of derived keys among them if there are any. -/
def withDerived (funding : Funding) : Option (DerivedKeys × Address) → ExceptT TransferFault m Funding
  | none => pure funding
  | some (keys, change) => do
    match keys.change.getLast? with
    | some last => Journal.debug ("Found change address at " ++ last.path)
    | none => pure ()
    let funding ← Funding.step (funding.addDerived keys change)
    Journal.info ("Searching " ++ toString funding.lockHashes.length ++ " derived lock hashes")
    pure funding

/-- The locks to search. -/
def resolving (w : Wallet m) (p : Partners) (order : Order) : ExceptT TransferFault m (Funding × Draft) := do
  let genesis ← ExceptT.adapt TransferFault.node w.node.genesis
  let funding ← Funding.step (Funding.primary order)
  let derived ← Funding.step (p.derive order)
  let funding ← withDerived funding derived
  Funding.addSource order { genesis } funding

/-- The cells that pay, if there are enough. -/
def searching (w : Wallet m) (p : Partners) (order : Order) (funding : Funding) :
    ExceptT TransferFault m Selection := do
  let cutoff ← ExceptT.adapt TransferFault.node w.node.cutoff
  let s ← Funding.step (p.select funding.lockHashes { target := order.target, cutoff })
  Funding.tell order.target 0 s.cells
  Journal.info ("Selected " ++ toString s.cells.length ++ " cells, " ++ Amount.text s.capacity)
  if s.isSatisfied then pure s
  else throw (.insufficient ⟨w.network, System.sighashLock order.payer.keyHash⟩ s.capacity)

/-- The signed draft. -/
def signing (p : Partners) (order : Order) (funding : Funding) (draft : Draft) : ExceptT TransferFault m Draft := do
  let signatures ← Funding.step (p.sign order funding draft)
  Journal.debug ("Signed " ++ toString signatures.length ++ " lock group(s)")
  Funding.step ((addSignatures draft signatures).mapError .draft)

/-- The stages of a run that has an order. -/
def fulfil (w : Wallet m) (p : Partners) (skipCheck : Bool) (order : Order) : Running m Transaction := do
  enter .resolving
  let (funding, draft) ← work (resolving w p order)
  enter .searching
  let s ← work (searching w p order funding)
  enter .balancing
  let draft ← work (balance w order funding s skipCheck draft)
  enter .signing
  let draft ← work (signing p order funding draft)
  enter .finalizing
  let tx ← work (submit w draft)
  enter .submitted
  pure tx

/-- The stages of a run. -/
def stagesWith (w : Wallet m) (p : Partners) (request : Request) (skipCheck : Bool) : Running m Transaction := do
  enter .validating
  let order ← work (validated w request)
  fulfil w p skipCheck order

/-- The run of one request. -/
def runWith (w : Wallet m) (p : Partners) (request : Request) (skipCheck : Bool) : m Report :=
  concluded (stagesWith w p request skipCheck)

/-! ## The answers of a wallet -/

section Lawful

variable [LawfulMonad m]

omit [Journal m] in
/-- The work of a stage may be done in parts. -/
theorem work_bind {α β : Type} (x : ExceptT TransferFault m α) (f : α → ExceptT TransferFault m β) :
    work (x >>= f) = work x >>= fun a => work (f a) := by
  apply ExceptT.ext
  apply StateT.ext
  intro trail
  show (x >>= f).run >>= (fun r => pure (r, trail)) = _
  rw [ExceptT.run_bind, ExceptT.run_bind, StateT.run_bind, bind_assoc]
  show _ = (x.run >>= fun r => pure (r, trail)) >>= _
  rw [bind_assoc]
  refine bind_congr fun r => ?_
  rw [pure_bind]
  cases r with
  | error e => exact pure_bind ..
  | ok a => rfl

omit [Journal m] in
theorem step_bind {α β : Type} (c : Except TransferFault α) (f : α → Except TransferFault β) :
    (Funding.step (c >>= f) : ExceptT TransferFault m β) = Funding.step c >>= fun a => Funding.step (f a) := by
  apply ExceptT.ext
  rw [ExceptT.run_bind]
  show _ = (pure c : m (Except TransferFault α)) >>= _
  rw [pure_bind]
  cases c <;> rfl

theorem resolving_partners (w : Wallet m) (order : Order) : resolving w w.partners order =
    ExceptT.adapt TransferFault.node w.node.genesis >>= fun genesis =>
      Funding.resolve w.keyring w.limits order { genesis } := by
  unfold resolving
  refine bind_congr fun genesis => ?_
  rw [Funding.resolve_eq]
  unfold Funding.owned
  rw [bind_assoc]
  refine bind_congr fun funding => ?_
  rw [bind_assoc]
  refine bind_congr fun derived => ?_
  cases derived <;> rfl

theorem searching_partners (w : Wallet m) (order : Order) (funding : Funding) : searching w w.partners order funding =
    ExceptT.adapt TransferFault.node w.node.cutoff >>= fun cutoff =>
      Funding.search w.network cutoff w.index order funding := by
  unfold searching
  refine bind_congr fun cutoff => ?_
  exact pure_bind (m := ExceptT TransferFault m) ..

theorem signing_partners (w : Wallet m) (order : Order) (funding : Funding) (draft : Draft) :
    signing w.partners order funding draft = signed w order funding draft := by
  unfold signing signed Wallet.partners
  dsimp only
  rw [step_bind, bind_assoc]

/-- A run is one with the answers of its wallet. -/
theorem run_eq_runWith (w : Wallet m) (request : Request) (skipCheck : Bool) :
    run w request skipCheck = runWith w w.partners request skipCheck := by
  have hstages : stages w request skipCheck = stagesWith w w.partners request skipCheck := by
    unfold stages stagesWith fulfil
    simp only [resolving_partners, searching_partners, signing_partners, work_bind, bind_assoc]
  unfold run
  rw [hstages]
  rfl

end Lawful

end Transfer

end Parts

/-! ## Dialogues -/

namespace Transfer

/-- The wallet with another node. -/
def withNode (w : Wallet Told) (replies : Replies) : Wallet Told := { w with node := replies.node }

section Dialogues

variable {Q : Event → Prop}

theorem dialogue_validated (w : Wallet Told) (request : Request) :
    Dialogue Stage.validating.Permits fun r => validated (withNode w r) request := by
  unfold validated withNode
  dsimp only
  refine .bind (.step _) fun payer => .bind (.step _) fun locked => ?_
  cases locked with
  | none => exact .step _
  | some source => exact .bind (.note trivial) fun _ => .step _

theorem dialogue_withDerived (hnote : ∀ n, Q (.note n)) (funding : Funding) (derived : Option (DerivedKeys × Address)) :
    Dialogue Q fun _ => (withDerived funding derived : ExceptT TransferFault Told Funding) := by
  cases derived with
  | none => exact .pure funding
  | some derived =>
    obtain ⟨keys, change⟩ := derived
    have hadded : Dialogue Q fun _ => (do
        let found ← Funding.step (funding.addDerived keys change)
        Journal.info ("Searching " ++ toString found.lockHashes.length ++ " derived lock hashes")
        pure found : ExceptT TransferFault Told Funding) :=
      .bind (.step _) fun found => .bind (.note (hnote _)) fun _ => .pure found
    unfold withDerived
    dsimp only
    cases keys.change.getLast? with
    | none => exact hadded
    | some last => exact .bind (.note (hnote _)) fun _ => hadded

theorem dialogue_resolving (w : Wallet Told) (p : Partners) (order : Order) :
    Dialogue Stage.resolving.Permits fun r => resolving (withNode w r) p order := by
  refine .bind (.adapt _ (dialogue_genesis fun _ _ => trivial)) fun genesis => ?_
  refine .bind (.step _) fun primary => .bind (.step _) fun derived => ?_
  refine .bind (dialogue_withDerived (fun _ => trivial) _ _) fun funding => ?_
  unfold Funding.addSource
  cases order.locked with
  | none => exact .pure _
  | some source => exact .step _

theorem dialogue_tell (hnote : ∀ n, Q (.note n)) (target : Int) (before : Nat) (cells : List LiveCell) :
    Dialogue Q fun _ => (Funding.tell target before cells : ExceptT TransferFault Told Unit) := by
  induction cells generalizing before with
  | nil => exact .pure ()
  | cons c r ih => exact .bind (.step _) fun text => .bind (.note (hnote _)) fun _ => ih _

theorem dialogue_searching (w : Wallet Told) (p : Partners) (order : Order) (funding : Funding) :
    Dialogue Stage.searching.Permits fun r => searching (withNode w r) p order funding := by
  refine .bind (.adapt _ (dialogue_cutoff (fun _ => trivial) fun _ _ => trivial)) fun cutoff => ?_
  refine .bind (.step _) fun s => .bind (dialogue_tell (fun _ => trivial) _ _ _) fun _ => ?_
  refine .bind (.note trivial) fun _ => ?_
  split
  · exact .pure _
  · exact .throw (TransferFault.insufficient ⟨w.network, System.sighashLock order.payer.keyHash⟩ s.capacity)

theorem dialogue_fetch (known : Assoc OutPoint CellBody) (p : OutPoint) :
    Dialogue Stage.balancing.Permits fun r => fetch r.node known p := by
  unfold fetch
  split
  · exact .pure _
  · refine .bind (.adapt _ (.ask (isQuestion_cell p false) fun _ => trivial)) fun answer => ?_
    cases answer with
    | none => exact .throw _
    | some body => exact .pure _

theorem dialogue_addInputs (skipCheck : Bool) (known : Assoc OutPoint CellBody) (draft : Draft)
    (cells : List LiveCell) : Dialogue Stage.balancing.Permits fun r => addInputs r.node skipCheck known draft cells := by
  induction cells generalizing known draft with
  | nil => exact .pure draft
  | cons c r ih => exact .bind (dialogue_fetch known c.outPoint) fun fetched => .bind (.step _) fun added => ih _ _

theorem dialogue_balance (w : Wallet Told) (order : Order) (funding : Funding) (s : Selection) (skipCheck : Bool)
    (draft : Draft) :
    Dialogue Stage.balancing.Permits fun r => balance (withNode w r) order funding s skipCheck draft := by
  have hadded (left : Int) (balanced : Draft) : Dialogue Stage.balancing.Permits fun _ => (do
      if 0 < left ∧ left < w.limits.cell then Journal.info ("Change " ++ Amount.text left ++ " is added to the fee")
      pure balanced : ExceptT TransferFault Told Draft) := by
    split
    · exact .bind (.note trivial) fun _ => .pure balanced
    · exact .pure balanced
  refine .bind (.step (rest w.limits order s.capacity)) fun left => .bind (dialogue_addInputs _ _ _ _) fun filled => ?_
  refine .bind (.step ((addOutputs w.limits order funding.changeLock left filled).mapError .draft)) fun balanced => ?_
  exact hadded left balanced

theorem dialogue_signing (p : Partners) (order : Order) (funding : Funding) (draft : Draft) :
    Dialogue Stage.signing.Permits fun _ => (signing p order funding draft : ExceptT TransferFault Told Draft) :=
  .bind (.step _) fun _ => .bind (.note trivial) fun _ => .step _

theorem dialogue_submit (w : Wallet Told) (draft : Draft) :
    Dialogue Stage.finalizing.Permits fun r => submit (withNode w r) draft := by
  refine .bind (.step _) fun finished => .bind (.step _) fun hash => .bind (.note trivial) fun _ => ?_
  refine .bind (.adapt _ (.ask (isQuestion_send _) fun _ => trivial)) fun sent => ?_
  split
  · exact .pure _
  · exact .throw _

theorem course_fulfil (w : Wallet Told) (p : Partners) (skipCheck : Bool) (order : Order) :
    Course [.resolving, .searching, .balancing, .signing, .finalizing, .submitted] fun r =>
      fulfil (withNode w r) p skipCheck order := by
  refine .leg (dialogue_resolving w p order) fun resolved => .leg (dialogue_searching w p order _) fun s => ?_
  refine .leg (dialogue_balance w order _ s skipCheck _) fun balanced => ?_
  refine .leg (dialogue_signing p order _ balanced) fun signed => ?_
  exact .leg (dialogue_submit w signed) fun tx => .arrive .submitted tx

/-- **A run takes its stages in order.** -/
theorem course_stagesWith (w : Wallet Told) (p : Partners) (request : Request) (skipCheck : Bool) :
    Course Stage.path fun r => stagesWith (withNode w r) p request skipCheck :=
  .leg (dialogue_validated w request) (course_fulfil w p skipCheck)

end Dialogues

end Transfer

end CellPurse
