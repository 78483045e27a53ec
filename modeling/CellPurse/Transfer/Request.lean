import CellPurse.Fault
import CellPurse.Keys.Extended
import CellPurse.Ledger.Amount
import CellPurse.Transfer.Limits
import CellPurse.Transfer.LockedSource

/-!
# CellPurse.Transfer.Request — what a transfer is asked to do

A request comes as texts.  An order is a request that makes sense: somebody who pays, a place to pay to, an amount and a
fee.

* `Request.payer`, `Request.locked`, `Request.order`: who pays, the locked source, and the rest, in the order in which
  faults are looked for;
* `Request.validate`: all of it;
* `RequestFault`: what is wrong with a request.
-/

namespace CellPurse

/-- A request for a transfer, with its amounts in coins. -/
structure Request where
  toAddress : String
  amount : String
  fee : String
  secret : Option String := none
  account : Option String := none
  lockedAddress : Option String := none
  password : Option String := none
  /-- How many keys to receive are derived. -/
  receiving : Int := 1000
  /-- The last address for change, if derived keys are to pay too. -/
  changeAddress : Option String := none
  data : Bytes := []
  deriving DecidableEq, Repr

/-- What is wrong with a request. -/
inductive RequestFault where
  /-- Neither a secret nor an account is given, or both. -/
  | payer
  /-- An address for change is given with a secret. -/
  | changeOfSecret
  | negativeReceiving
  | secretText (f : HexFault)
  | secret (f : KeyFault)
  | account (text : String) (f : AddressFault)
  /-- The address of the account is not one of a single key. -/
  | accountLock (text : String)
  | noPassword
  | noKeyring
  | address (text : String) (f : AddressFault)
  | locked (f : LockedSourceFault)
  /-- The address for change is not one of a single key. -/
  | changeLock (address : Address)
  | destination (address : Address)
  | amount (f : AmountFault)
  | belowFloor (floor : Int)
  /-- The amount does not pay for the data. -/
  | noRoom (size : Int)
  deriving DecidableEq, Repr

/-- The fault in words. -/
def RequestFault.message? : RequestFault → Option String
  | payer => some "Exactly one of privkey or from-account is required"
  | changeOfSecret => some "derive-change-address can not be used with privkey"
  | negativeReceiving => some "derive-receiving-address-length must not be negative"
  | secretText f => some ("Invalid private key: " ++ f.message)
  | secret f => some ("Invalid private key: " ++ f.message)
  | account text f => some ("Invalid account " ++ Text.Quoted.quote text ++ ": " ++ f.message)
  | accountLock text => some ("Account address must be a single key address: " ++ text)
  | noPassword => some "Password is required for from-account"
  | noKeyring => some "A key store is required for from-account"
  | address text f => some ("Invalid address " ++ Text.Quoted.quote text ++ ": " ++ f.message)
  | locked f => some f.message
  | changeLock a => some ("derive-change-address must be a single key address: " ++ a.encode)
  | destination a => some ("Invalid to-address: " ++ a.encode)
  | amount f => f.message?
  | belowFloor floor => some ("Capacity can not less than " ++ toString floor ++ " shannons")
  | noRoom size => some ("Capacity can not hold " ++ toString size ++ " bytes of data")

/-- What the fault is about. -/
def RequestFault.kind : RequestFault → FaultKind
  | .locked f => f.kind
  | .amount .unbounded => .overflow
  | _ => .input

instance : Fault RequestFault := ⟨RequestFault.kind, fun f => f.message?⟩

/-- Who pays. -/
inductive Payer where
  | secret (secret : Secret)
  | account (keyHash : Bytes) (password : String)
  deriving DecidableEq, Repr

/-- The hash of the key that pays. -/
def Payer.keyHash : Payer → Bytes
  | secret s => s.keyHash
  | account keyHash _ => keyHash

/-- A request that makes sense. -/
structure Order where
  payer : Payer
  destination : Address
  amount : Nat
  fee : Nat
  data : Bytes
  receiving : Nat
  change : Option Address
  locked : Option LockedSource
  deriving DecidableEq, Repr

/-- The lock of an address is a system lock with arguments of the right size. -/
def Address.isDestination (a : Address) : Bool := a.script.isSighash || a.script.isMultisig

namespace Request

/-- Reads an address of a network. -/
def parseAddress (network : Network) (text : String) : Except RequestFault Address :=
  (Address.parse text (some network)).mapError (.address text)

/-- The hash of a key: twenty bytes, or the address of a single key. -/
def keyHash (network : Network) (text : String) : Except RequestFault Bytes :=
  let read : Except RequestFault Bytes := do
    let address ← (Address.parse text (some network)).mapError (.account text)
    if address.script.isSighash then pure address.args else throw (.accountLock text)
  match Hex.decode text with
  | .ok hash => if hash.length = System.keyHashSize then .ok hash else read
  | .error _ => read

/-- Reads a secret. -/
def parseSecret (text : String) : Except RequestFault Secret := do
  let bytes ← (Hex.decode (Text.Blank.trim text)).mapError .secretText
  (Secret.ofBytes bytes).mapError .secret

/-- Who pays. -/
def payer (network : Network) (hasKeyring : Bool) (r : Request) : Except RequestFault Payer :=
  match r.secret, r.account with
  | some text, none =>
    if r.changeAddress.isSome then .error .changeOfSecret
    else if r.receiving < 0 then .error .negativeReceiving
    else Payer.secret <$> parseSecret text
  | none, some text =>
    if r.receiving < 0 then .error .negativeReceiving
    else do
      let hash ← keyHash network text
      match r.password with
      | none => throw .noPassword
      | some password => if hasKeyring then pure (.account hash password) else throw .noKeyring
  | _, _ => .error .payer

/-- The locked source. -/
def locked (network : Network) (r : Request) : Except RequestFault (Option LockedSource) :=
  match r.lockedAddress with
  | none => .ok none
  | some text => do
    let address ← parseAddress network text
    some <$> (LockedSource.ofAddress address).mapError .locked

/-- The address for change. -/
def change (network : Network) (r : Request) : Except RequestFault (Option Address) :=
  match r.changeAddress with
  | none => .ok none
  | some text => do
    let address ← parseAddress network text
    if address.script.isSighash then pure (some address) else throw (.changeLock address)

/-- The address to pay to. -/
def destination (network : Network) (r : Request) : Except RequestFault Address := do
  let address ← parseAddress network r.toAddress
  if address.isDestination then pure address else throw (.destination address)

/-- An amount makes a cell that can live, with data of a given size. -/
def checkAmount (amount size floor : Int) : Except RequestFault Unit :=
  if amount < floor then .error (.belowFloor floor)
  else if amount < floor + size * Amount.coin then .error (.noRoom size)
  else .ok ()

/-- The order of a payer and a locked source. -/
def order (network : Network) (limits : Limits) (r : Request) (payer : Payer) (locked : Option LockedSource) :
    Except RequestFault Order := do
  let change ← r.change network
  let destination ← r.destination network
  let amount ← (Amount.parse r.amount).mapError .amount
  let fee ← (Amount.parse r.fee).mapError .amount
  checkAmount amount r.data.length limits.cell
  pure ⟨payer, destination, amount, fee, r.data, r.receiving.toNat, change, locked⟩

/-- The order of a request. -/
def validate (network : Network) (limits : Limits) (hasKeyring : Bool) (r : Request) : Except RequestFault Order := do
  let payer ← r.payer network hasKeyring
  let locked ← r.locked network
  r.order network limits payer locked

end Request

end CellPurse
