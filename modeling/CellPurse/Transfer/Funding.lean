import CellPurse.Cells.Index
import CellPurse.Cells.Selection
import CellPurse.Keys.Expansion
import CellPurse.Note
import CellPurse.Transfer.Fault

/-!
# CellPurse.Transfer.Funding — where the money comes from

* `Funding.resolve`: the locks of the payer that are searched, in order, and the lock for change: the lock of the payer's
  key, those of derived keys where an address for change is given, and before them the locked source;
* `Funding.search`: walks over the cells of these locks, one lock after another, until the amount and the fee are
  covered.
-/

namespace CellPurse

/-- The locks that are searched, and what signing needs to know of them. -/
structure Funding where
  lockHashes : List Bytes
  changeLock : Script
  /-- The derived keys. -/
  entries : List KeyEntry := []
  deriving DecidableEq, Repr

namespace Funding

/-- The hash of the lock of one key. -/
def lockHash (keyHash : Bytes) : Except TransferFault Bytes := (System.sighashLock keyHash).hash.mapError .molecule

/-- The locks of the payer's key alone. -/
def primary (order : Order) : Except TransferFault Funding := do
  let hash ← lockHash order.payer.keyHash
  pure ⟨[hash], System.sighashLock order.payer.keyHash, []⟩

/-- The derived keys of the payer, if an address for change is given. -/
def derivedKeys (keyring : Option Keyring) (limits : Limits) (order : Order) :
    Except TransferFault (Option (DerivedKeys × Address)) :=
  match keyring, order.change, order.payer with
  | some ring, some change, .account account password => do
    let keys ← (ring.expandToChange account password order.receiving change.args limits.depth).mapError .keyring
    pure (some (keys, change))
  | _, _, _ => .ok none

/-- Adds the locks of derived keys; change goes to the given address. -/
def addDerived (funding : Funding) (keys : DerivedKeys) (change : Address) : Except TransferFault Funding := do
  let hashes ← keys.keyHashes.mapM lockHash
  pure ⟨funding.lockHashes ++ hashes, change.script, keys.entries⟩

/-- Puts a locked source before all, and its policy into the draft. -/
def addLocked (funding : Funding) (order : Order) (source : LockedSource) (draft : Draft) :
    Except TransferFault (Funding × Draft) := do
  let keys := order.payer.keyHash :: funding.entries.map KeyEntry.keyHash
  let policy ← (source.bind keys).mapError .bind
  let draft ← (draft.addPolicy policy).mapError .draft
  let hash ← source.address.lockHash.mapError .molecule
  pure ({ funding with lockHashes := hash :: funding.lockHashes }, draft)

variable {m : Type → Type} [Monad m] [Journal m]

/-- Lets a step fail. -/
def step {α : Type} (r : Except TransferFault α) : ExceptT TransferFault m α := ExceptT.mk (pure r)

/-- The locks to search. -/
def resolve (keyring : Option Keyring) (limits : Limits) (order : Order) (draft : Draft) :
    ExceptT TransferFault m (Funding × Draft) := do
  let funding ← step (primary order)
  let funding ← match ← step (derivedKeys keyring limits order) with
    | none => pure funding
    | some (keys, change) => do
      match keys.change.getLast? with
      | some last => Journal.debug ("Found change address at " ++ last.path)
      | none => pure ()
      let funding ← step (funding.addDerived keys change)
      Journal.info ("Searching " ++ toString funding.lockHashes.length ++ " derived lock hashes")
      pure funding
  match order.locked with
  | none => pure (funding, draft)
  | some source => step (funding.addLocked order source draft)

/-! ## Cells -/

/-- Walks over the cells of one lock, unless enough is selected. -/
def searchLock (index : Index) (s : Selection) (lockHash : Bytes) : Selection :=
  if s.isSatisfied then s else (index.scan (.lock lockHash) Selection.visit s).state

/-- Walks over the cells of the locks. -/
def select (index : Index) (lockHashes : List Bytes) (s : Selection) : Selection :=
  lockHashes.foldl (searchLock index) s

/-- What is said of a selected cell. -/
def selectionNote (target total : Int) (c : LiveCell) : Except LiteralFault String := do
  pure ("Selected cell " ++ c.outPoint.text ++ " (" ++ (← Literal.decimal c.capacity) ++ " shannons), total " ++
    (← Literal.decimal total) ++ "/" ++ (← Literal.decimal target))

/-- Tells of selected cells; `before` is what was selected before them. -/
def tell (target : Int) : Nat → List LiveCell → ExceptT TransferFault m Unit
  | _, [] => pure ()
  | before, c :: r => do
    let total := before + c.capacity
    let text ← step ((selectionNote target total c).mapError .number)
    Journal.debug text
    tell target total r

/-- The cells that pay, if there are enough. -/
def search (network : Network) (cutoff : Int) (index : Index) (order : Order) (funding : Funding) :
    ExceptT TransferFault m Selection := do
  let target : Int := order.amount + order.fee
  let s := select index funding.lockHashes { target, cutoff }
  tell target 0 s.cells
  Journal.info ("Selected " ++ toString s.cells.length ++ " cells, " ++ Amount.text s.capacity)
  if s.isSatisfied then pure s
  else throw (.insufficient ⟨network, System.sighashLock order.payer.keyHash⟩ s.capacity)

end Funding

end CellPurse
