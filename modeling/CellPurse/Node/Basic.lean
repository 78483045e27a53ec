import CellPurse.Address.Basic
import CellPurse.Epoch.Maturity
import CellPurse.Fault
import CellPurse.Json.Encoding
import CellPurse.Json.Parser
import CellPurse.Ledger.Genesis
import CellPurse.Url.Basic

/-!
# CellPurse.Node.Basic — what a node is asked

A node knows the chain: it has blocks, cells and epochs, and takes transactions.  Its answers come in some monad, and
any of them may fail.

* `Node`: the questions; a block is a document, and null where there is none;
* `Node.genesis`: the first block, read;
* `Node.cutoff`: the highest block whose new coins can be spent now;
* `NodeFault`: why there is no answer: the way to the node, or an answer that makes no sense.
-/

namespace CellPurse

/-- Why a node gives no answer. -/
inductive NodeFault where
  /-- The node was not reached, or it refused. -/
  | transport (message : String)
  | noGenesis
  | noEpoch (number : Int)
  /-- The node has no address. -/
  | url (f : UrlFault)
  /-- The answer came from an address that does not tell where it is. -/
  | nowhere (address : String)
  /-- The answer is no text. -/
  | encoding (f : EncodingFault)
  /-- The answer is no document. -/
  | text (f : JsonFault)
  /-- The answer is the wrong document. -/
  | document (f : DocumentFault)
  deriving DecidableEq, Repr

/-- The fault in words; an answer of the wrong shape has none. -/
def NodeFault.message? : NodeFault → Option String
  | transport message => some message
  | noGenesis => some "Node returned no genesis block"
  | noEpoch number => some ("Can not get epoch " ++ toString number ++ " from node")
  | url f => some f.message
  | nowhere address => some ("unknown url type: " ++ Text.Quoted.quote address)
  | encoding f => f.message?
  | text f => f.message?
  | document f => f.message?

/-- What the fault is about. -/
def NodeFault.kind : NodeFault → FaultKind
  | .url _ => .url
  | .nowhere _ => .value
  | .encoding _ => .notText
  | .text f => f.kind
  | .document f => f.kind
  | _ => .transport

instance : Fault NodeFault := ⟨NodeFault.kind, fun f => f.message?⟩

/-- The fault is one of the way to the node. -/
def NodeFault.isTransport (f : NodeFault) : Bool := f.kind = .transport

/-- A live cell as the node has it. -/
structure CellBody where
  output : CellOutput
  data : Option Bytes := none
  deriving DecidableEq, Repr

/-- The blocks of an epoch. -/
structure EpochSpan where
  number : Int
  start : Int
  length : Int
  deriving DecidableEq, Repr

/-- What a node is asked. -/
structure Node (m : Type → Type) where
  block : Int → ExceptT NodeFault m Json
  cell : OutPoint → Bool → ExceptT NodeFault m (Option CellBody)
  send : Transaction → ExceptT NodeFault m Bytes
  tip : ExceptT NodeFault m Epoch
  epoch : Int → ExceptT NodeFault m (Option EpochSpan)
  network : ExceptT NodeFault m Network

namespace Node

variable {m : Type → Type} [Monad m]

/-- Reads the first block. -/
def readGenesis (block : Json) : Except NodeFault Genesis :=
  match block with
  | .null => .error .noGenesis
  | block => (Genesis.ofBlock block).mapError .document

/-- The first block. -/
def genesis (n : Node m) : ExceptT NodeFault m Genesis := do
  let block ← n.block 0
  ExceptT.mk (pure (readGenesis block))

/-- The highest block whose new coins can be spent now. -/
def cutoff (n : Node m) : ExceptT NodeFault m Int := do
  let tip ← n.tip
  if tip.number < Maturity.epochs then pure 0
  else
    let number := tip.number - Maturity.epochs
    match ← n.epoch number with
    | none => throw (.noEpoch number)
    | some span => pure (Maturity.cutoff tip (some (span.start, span.length)) Maturity.epochs)

end Node

end CellPurse
