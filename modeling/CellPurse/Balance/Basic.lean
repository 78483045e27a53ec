import CellPurse.Cells.Index
import CellPurse.Cells.Totals
import CellPurse.Cells.Window
import CellPurse.Fault
import CellPurse.Keys.Expansion
import CellPurse.Ledger.Amount
import CellPurse.Node.Basic
import CellPurse.Note

/-!
# CellPurse.Balance.Basic — what locks own

Questions that change nothing.  The node is asked for nothing but the block up to which new coins can be spent.

* `Balance.totals`: what some locks own together; `Balance.Summary` is what is shown of it;
* `Balance.page`: a page of the cells of a key;
* `Balance.derivedLocks`: the locks of an account and of its derived keys.
-/

namespace CellPurse

/-- Why a question has no answer. -/
inductive BalanceFault where
  | node (f : NodeFault)
  | keyring (f : KeyringFault)
  | molecule (f : MoleculeFault)
  /-- A sum has too many digits to be told. -/
  | number (f : LiteralFault)
  deriving DecidableEq, Repr

/-- The fault in words. -/
def BalanceFault.message? : BalanceFault → Option String
  | node f => f.message?
  | keyring f => f.message?
  | molecule f => f.message?
  | number f => some f.message

/-- What the fault is about. -/
def BalanceFault.kind : BalanceFault → FaultKind
  | node f => f.kind
  | keyring f => f.kind
  | molecule f => f.kind
  | number _ => .value

instance : Fault BalanceFault := ⟨BalanceFault.kind, fun f => f.message?⟩

namespace Balance

variable {m : Type → Type} [Monad m] [Journal m]

/-! ## Totals -/

/-- What is shown of a balance. -/
structure Summary where
  total : Int
  immature : Int
  dao : Int
  deriving DecidableEq, Repr

/-- The balance as a document: parts of nothing are left out, and what is not deposited is shown where something is. -/
def Summary.toJson (s : Summary) : Json :=
  let amount (key : String) (n : Int) : JsonText × Json := (key, .str (Amount.text n))
  .obj ([amount "total" s.total] ++ (if 0 < s.immature then [amount "immature" s.immature] else []) ++
    if 0 < s.dao then [amount "dao" s.dao, amount "free" (s.total - s.dao)] else [])

/-- The totals as they are shown. -/
def summary (t : Totals) : Summary := ⟨t.total, t.immature, t.dao⟩

/-- The totals over the cells of some locks. -/
def sum (index : Index) (cutoff : Int) (lockHashes : List Bytes) : Totals :=
  lockHashes.foldl (fun t h => (index.scan (.lock h) (Totals.visit cutoff) t).state) {}

/-- What is said of the totals over some locks. -/
def note (locks : Nat) (t : Totals) : Except LiteralFault String := do
  pure ("Capacity of " ++ toString locks ++ " lock hash(es): total=" ++ (← Literal.decimal t.total) ++
    " immature=" ++ (← Literal.decimal t.immature) ++ " dao=" ++ (← Literal.decimal t.dao))

/-- What some locks own together; sums that can not be told are a fault. -/
def totals (node : Node m) (index : Index) (lockHashes : List Bytes) : ExceptT BalanceFault m Totals := do
  let cutoff ← ExceptT.adapt BalanceFault.node node.cutoff
  let t := sum index cutoff lockHashes
  let text ← ExceptT.mk (pure ((note lockHashes.length t).mapError BalanceFault.number))
  Journal.debug text
  pure t

/-! ## Pages -/

/-- The last block there can be. -/
def lastBlock : Int := 2 ^ 64 - 1

/-- A page of cells, each with whether it can be spent. -/
structure Page where
  cells : List (LiveCell × Bool)
  count : Nat
  capacity : Nat
  /-- Number and capacity of all cells of the key, unless the page was made in fast mode. -/
  total : Option (Nat × Nat)
  deriving DecidableEq, Repr

/-- A cell of a page as a document. -/
def cellJson (c : LiveCell) (mature : Bool) : Json :=
  .obj (Json.insert "mature" (.bool mature) (Json.insert "capacity" (.str (Amount.text c.capacity)) c.fields))

/-- The page as a document. -/
def Page.toJson (p : Page) : Json :=
  let sums (label : String) (count capacity : Nat) : List (JsonText × Json) :=
    [((label ++ "_count" : String), .int count), ((label ++ "_capacity" : String), .str (Amount.text capacity))]
  let totals := match p.total with
    | some (count, capacity) => sums "total" count capacity
    | none => []
  .obj (("live_cells", .arr (p.cells.map fun c => cellJson c.1 c.2)) :: (sums "current" p.count p.capacity ++ totals))

/-- The page of a walk. -/
def pageOf (cutoff : Int) (walk : Scan Window LiveCell) : Page where
  cells := walk.collected.map fun c => (c, c.isMature cutoff)
  count := walk.state.count
  capacity := walk.state.capacity
  total := if walk.state.fast then none else some (walk.state.totalCount, walk.state.totalCapacity)

/-- The walk over the cells of a key. -/
def walk (index : Index) (key : SearchKey) (limit : Int) (start stop : Option Int) (fast : Bool) :
    Scan Window LiveCell :=
  index.scan key Window.visit { limit, last := stop.getD lastBlock, fast } start

/-- A page of the cells of a key. -/
def page (node : Node m) (index : Index) (key : SearchKey) (limit : Int) (start stop : Option Int) (fast : Bool) :
    ExceptT BalanceFault m Page := do
  let cutoff ← ExceptT.adapt BalanceFault.node node.cutoff
  pure (pageOf cutoff (walk index key limit start stop fast))

/-! ## Derived locks -/

/-- The locks of an account and of its derived keys. -/
def derivedLocks (ring : Keyring) (account : Bytes) (password : String) (receiving change : Int) :
    ExceptT BalanceFault m (List Bytes) := do
  Journal.debug ("Deriving " ++ toString receiving ++ " receiving and " ++ toString change ++ " change keys for " ++
    account.hexText)
  let keys ← ExceptT.mk (pure ((ring.expand account password receiving change).mapError BalanceFault.keyring))
  ExceptT.mk (pure ((account :: keys.keyHashes).mapM fun h =>
    (System.sighashLock h).hash.mapError BalanceFault.molecule))

end Balance

end CellPurse
