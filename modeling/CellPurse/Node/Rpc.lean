import CellPurse.Node.Basic
import CellPurse.Note

/-!
# CellPurse.Node.Rpc — a node behind JSON-RPC

A node that is asked over HTTP: each question is a document with a number of its own, and the answer to it is in the
field `result`, unless there is an `error`.

* `Reply`: what comes of one request;
* `Rpc`: the address of a node, which need not be one, and a way to send a document to an address;
* `Rpc.answer`: the result in a reply; `Rpc.call`: asks and numbers the question;
* `Rpc.node`: the questions to a node as calls.
-/

namespace CellPurse

/-- What comes of a request. -/
inductive Reply where
  /-- A status and a body. -/
  | response (status : Nat) (body : Bytes)
  /-- Nothing came in time. -/
  | timeout (text : String)
  /-- The node was not reached. -/
  | failure (text : String)
  deriving DecidableEq, Repr

/-- The address of a node, and a way to send a document to an address. -/
structure Rpc (m : Type → Type) where
  url : String
  post : Url → Json → m Reply

namespace Rpc

/-- Where a node is found if nothing else is said. -/
def defaultUrl : String := "http://127.0.0.1:8114"

/-- An address without the slashes at its end. -/
def trimUrl (url : String) : String :=
  String.ofList (url.toList.reverse.dropWhile (· = '/')).reverse

/-- The document of a question. -/
def payload (id : Nat) (method : String) (params : List Json) : Json :=
  .obj [("jsonrpc", .str "2.0"), ("id", .int id), ("method", .str method), ("params", .arr params)]

/-- The status is one of success. -/
def isSuccess (status : Nat) : Bool := 200 ≤ status && status < 300

/-- Reads a body. -/
def parseBody (body : Bytes) : Except NodeFault Json := do
  let cs ← (Encoding.decode body).mapError NodeFault.encoding
  (Json.ofChars cs).mapError .text

/-- The refusal that a body holds. -/
def refusal (error : Json) : Except DocumentFault String := do
  let code := (← error.optional "code").getD (.str "unknown")
  let message := (← error.optional "message").getD (.str error.shown)
  pure ("RPC error " ++ code.plainText ++ ": " ++ message.plainText)

/-- The field `error` of a body, null where there is none. -/
def errorOf (body : Json) : Except DocumentFault Json := do
  if ← body.has "error" then body.field "error" else pure .null

/-- The result in a body. -/
def resultOf (body : Json) : Except NodeFault Json := do
  let error ← (errorOf body).mapError .document
  if error.truthy then throw (.transport (← (refusal error).mapError .document))
  else
    let result ← (body.optional "result").mapError .document
    pure (result.getD .null)

/-- The result in a reply. -/
def answer (method : String) : Reply → Except NodeFault Json
  | .timeout _ => .error (.transport ("RPC call timed out: " ++ method))
  | .failure text => .error (.transport ("RPC call failed: " ++ method ++ ": " ++ text))
  | .response status body =>
    if isSuccess status then parseBody body >>= resultOf
    else .error (.transport ("RPC call failed: " ++ method ++ ": HTTP status " ++ toString status))

/-- Nobody answers from nowhere. -/
def placed (url : Url) : Reply → Except NodeFault Unit
  | .response _ _ => if url.isAbsolute then .ok () else .error (.nowhere url.text)
  | _ => .ok ()

/-- What is said of a reply that is no answer. -/
def complaint? (method : String) : Reply → Option String
  | .timeout text => some ("RPC call timed out: " ++ method ++ " - " ++ text)
  | .failure text => some ("RPC call failed: " ++ method ++ " - " ++ text)
  | .response status _ =>
    if isSuccess status then none else some ("RPC call failed: " ++ method ++ " - HTTP status " ++ toString status)

variable {m : Type → Type} [Monad m] [Journal m]

/-- Asks a question; the state counts the questions. -/
def call (r : Rpc m) (method : String) (params : List Json) : ExceptT NodeFault (StateT Nat m) Json := do
  let id := (← get) + 1
  set id
  let url ← ExceptT.mk (pure ((Url.parse r.url).mapError .url))
  let reply ← ((r.post url.asked (payload id method params) : m Reply) : StateT Nat m Reply)
  ExceptT.mk (pure (placed url.asked reply))
  match complaint? method reply with
  | some text => Journal.error text
  | none => pure ()
  ExceptT.mk (pure (answer method reply))

/-! ## Answers -/

/-- The status of a cell, in an answer that is neither null, false, zero nor empty; else the answer itself. -/
def statusOf (result : Json) : Except DocumentFault Json :=
  if result.truthy then do
    let status ← result.optional "status"
    pure (status.getD .null)
  else .ok result

/-- The status is that of a live cell. -/
def isLive : Json → Bool
  | .str s => s = "live"
  | _ => false

/-- Reads a live cell. -/
def readCell (result : Json) (withData : Bool) : Except DocumentFault CellBody := do
  let cell ← result.field "cell"
  let found ← if withData then cell.optional "data" else pure none
  let data ← match found with
    | some d => if d.truthy then some <$> (← d.field "content").bytes else pure none
    | none => pure none
  let output ← CellOutput.ofJson (← cell.field "output")
  pure ⟨output, data⟩

/-- Reads an epoch; null is none. -/
def readEpoch (result : Json) : Except DocumentFault (Option EpochSpan) :=
  match result with
  | .null => .ok none
  | result => do
    let number ← (← result.field "number").quantity
    let start ← (← result.field "start_number").quantity
    let length ← (← result.field "length").quantity
    pure (some ⟨number, start, length⟩)

/-- Reads the epoch of a header. -/
def readTip (header : Json) : Except DocumentFault Epoch := do
  let epoch ← (← header.field "epoch").quantity
  pure (.ofFullValue epoch)

/-- Reads the network of a chain. -/
def readNetwork (info : Json) : Except DocumentFault Network := do
  match ← info.optional "chain" with
  | some (.str s) => pure (if s = "ckb" then .mainnet else .testnet)
  | _ => pure .testnet

/-! ## The node -/

/-- Lets a reading of an answer fail. -/
def reading {α : Type} (r : Except DocumentFault α) : ExceptT NodeFault (StateT Nat m) α :=
  ExceptT.mk (pure (r.mapError .document))

/-- Asks for a cell. -/
def cell (r : Rpc m) (point : OutPoint) (withData : Bool) : ExceptT NodeFault (StateT Nat m) (Option CellBody) := do
  let result ← r.call "get_live_cell" [point.toJson, .bool withData]
  let status ← reading (statusOf result)
  if result.truthy && isLive status then
    some <$> reading (readCell result withData)
  else
    Journal.debug ("Cell " ++ point.text ++ " status: " ++ status.plainText)
    pure none

/-- The questions to a node as calls. -/
def node (r : Rpc m) : Node (StateT Nat m) where
  block number := r.call "get_block_by_number" [.ofQuantity number]
  cell := r.cell
  send tx := do
    let result ← r.call "send_transaction" [tx.toJson, .str "passthrough"]
    reading result.bytes
  tip := do
    let header ← r.call "get_tip_header" []
    reading (readTip header)
  epoch number := do
    let result ← r.call "get_epoch_by_number" [.ofQuantity number]
    reading (readEpoch result)
  network := do
    let info ← r.call "get_blockchain_info" []
    reading (readNetwork info)

end Rpc

end CellPurse
