import CellPurse.Balance.Basic
import CellPurse.Cells.Ranking
import CellPurse.Command.Basic
import CellPurse.Command.Fault
import CellPurse.Command.Host
import CellPurse.Settings.Basic
import CellPurse.Transfer.Run

/-!
# CellPurse.Command.Run — commands at work

A command reads the settings, opens the index, asks the node for its network where it needs a node, and does its job.
What it finds goes to the output, and notes of the chosen level or above go where notes go.

* `Command.openIndex`, `Command.readSecret`, `Command.askPassword`: what jobs need;
* `Command.transferJob`, `capacityJob`, `cellsJob`, `holdersJob`, `metricsJob`: the jobs;
* `Command.perform`: a command line from its words to its ending.
-/

namespace CellPurse.Command

variable {m : Type → Type} [Monad m] [Journal m]

/-- A run, which may fail; it counts the questions to the node. -/
abbrev Working (m : Type → Type) := ExceptT CommandFault (StateT Nat (Heard m))

/-- What a job works with. -/
structure Bench (m : Type → Type) where
  host : Host m
  settings : Settings
  command : Command

/-- The work of the host. -/
def byHost {α : Type} (x : m α) : Working m α := ExceptT.lift (StateT.lift (ReaderT.mk fun _ => x))

/-- What fails in its own way. -/
def step {ε α : Type} (f : ε → CommandFault) (x : Except ε α) : Working m α := ExceptT.mk (pure (x.mapError f))

/-! ## Files and passwords -/

/-- The bytes of a file. -/
def readFile (h : Host m) (place : String) : Working m Bytes := do
  match ← byHost (h.look place) with
  | .file content => pure content
  | .absent => throw (.file place .absent)
  | .underFile => throw (.file place .underFile)
  | .tooLong => throw (.file place .tooLong)
  | .directory => throw (.file place .directory)

/-- The text of a file. -/
def readText (h : Host m) (place : String) : Working m String := do
  match Entry.text? (← readFile h place) with
  | some text => pure text
  | none => throw (.file place .notText)

/-- The secret in a file, without blanks around it. -/
def readSecret (h : Host m) (what place : String) : Working m String := do
  if (← byHost (h.look place)).isMissing then throw (.noSecret what place)
  Text.Blank.trim <$> readText h place

/-- How often a password is asked for. -/
def patience : Nat := 1000

/-- Asks until something is typed. -/
def askPassword (h : Host m) : Nat → Working m String
  | 0 => throw .aborted
  | tries + 1 => do
    byHost (h.write "Password: ")
    let answer ← byHost h.line
    byHost (h.write "\n")
    match answer with
    | none => do
      byHost (h.write "\n")
      throw .aborted
    | some password => if password = "" then askPassword h tries else pure password

/-- A keyring with the account of some words, and the account. -/
def importAccount (h : Host m) (words password : String) : Working m (Bytes × Keyring) := do
  let salt ← byHost h.salt
  let (account, ring) ← step .key (Keyring.add {} words password salt)
  Journal.info ("Imported account " ++ account.hexText)
  pure (account, ring)

/-! ## Index and node -/

/-- Reads the records of a snapshot. -/
def readRecords (h : Host m) (place : String) : Working m (List LiveCell × List Script) := do
  match Entry.text? (← readFile h place) with
  | some text => step (.snapshot place) (Snapshot.records text)
  | none => throw (.snapshot place (.text .malformed))

/-- Opens the index. -/
def openIndex (b : Bench m) : Working m Index := do
  match b.command.snapshot.or b.settings.snapshot with
  | none => throw .noSnapshot
  | some place => do
    if (← byHost (b.host.look place)).isMissing then throw (.snapshotAbsent place)
    let records ← readRecords b.host place
    Journal.debug ("Loaded " ++ toString records.1.length ++ " live cells from " ++ place)
    step (.snapshot place) (Snapshot.index records)

/-- A word that is given and not empty, or another one. -/
def wordOr (word : Option String) (other : String) : String :=
  match word with
  | some "" | none => other
  | some w => w

/-- The node. -/
def node (b : Bench m) : Node (StateT Nat (Heard m)) :=
  let url := Rpc.trimUrl (wordOr b.command.url b.settings.url)
  Rpc.node ⟨url, fun url body _ => b.host.post b.settings.timeout url body⟩

/-- Asks the node for its network. -/
def askNetwork (n : Node (StateT Nat (Heard m))) : Working m Network := ExceptT.adapt CommandFault.node n.network

/-- Prints a document whose numbers can be written. -/
def print (h : Host m) (v : Json) : Working m Unit := do
  if v.hasOverlong then throw (.number .unwritten)
  byHost (h.write (v.pretty ++ "\n"))

/-! ## Transfers -/

/-- What a transfer is set up with: data, a secret, a keyring with an account and its password, and the index. -/
structure SetUp where
  data : Bytes
  secret : Option String
  ring : Option (Bytes × Keyring × String)
  index : Index

/-- In the set-up of a transfer, a file that is no text and a bad key are faults of the input. -/
def asInput : CommandFault → CommandFault
  | .file _ .notText => .input .notText
  | .key f => .input (.key f)
  | f => f

/-- The data of the new cell. -/
def readData (h : Host m) (t : TransferJob) : Working m Bytes :=
  match t.data, t.dataFile with
  | some text, _ => step (fun f => .input (.hex f)) (Hex.decode text)
  | none, some place => readFile h place
  | none, none => pure []

/-- The keyring of the words in a file. -/
def readRing (h : Host m) (place : String) : Working m (Bytes × Keyring × String) := do
  let words ← readSecret h "Mnemonic" place
  let password ← askPassword h patience
  let (account, ring) ← importAccount h words password
  pure (account, ring, password)

/-- Sets a transfer up. -/
def setUp (b : Bench m) (t : TransferJob) : Working m SetUp := do
  let data ← readData b.host t
  let secret ← t.secretFile.mapM (readSecret b.host "Private key")
  let ring ← t.wordsFile.mapM (readRing b.host)
  let index ← openIndex b
  pure ⟨data, secret, ring, index⟩

/-- The request of a transfer; the account of the words pays if nothing else is said. -/
def request (t : TransferJob) (s : SetUp) : Request where
  toAddress := t.toAddress
  amount := t.amount
  fee := t.fee
  secret := s.secret
  account := t.account.or (s.ring.map fun r => r.1.hexText)
  lockedAddress := t.lockedAddress
  password := s.ring.map fun r => r.2.2
  receiving := t.receiving
  changeAddress := t.changeAddress
  data := s.data

/-- What is printed of a transaction. -/
def printTransaction (h : Host m) (whole : Bool) (tx : Transaction) : Working m Unit := do
  if whole then print h tx.toJson
  else
    let hash ← step (fun f => .transfer (.molecule f)) tx.hash
    byHost (h.write (hash.hexText ++ "\n"))

/-- Makes a transfer. -/
def transferJob (b : Bench m) (t : TransferJob) : Working m Unit := do
  if t.data.isSome ∧ t.dataFile.isSome then throw .bothData
  let s ← ExceptT.adapt asInput (setUp b t)
  let n := node b
  let network ← askNetwork n
  let wallet : Wallet (StateT Nat (Heard m)) := ⟨n, s.index, network, s.ring.map fun r => r.2.1, b.settings.limits⟩
  let report ← ExceptT.lift (Transfer.run wallet (request t s) t.skipCheck)
  let tx ← step .transfer report.result
  printTransaction b.host t.whole tx

/-! ## Questions -/

/-- The locks of the account in a file of words, and of its derived keys. -/
def derivedLocks (h : Host m) (t : CapacityJob) : Working m (List Bytes) := do
  match t.wordsFile with
  | none => throw .noWords
  | some place => do
    let password ← askPassword h patience
    let words ← readSecret h "Mnemonic" place
    let (account, ring) ← importAccount h words password
    ExceptT.adapt CommandFault.balance (Balance.derivedLocks ring account password t.receiving t.change)

/-- Prints what is owned. -/
def capacityJob (b : Bench m) (t : CapacityJob) : Working m Unit := do
  let index ← openIndex b
  let n := node b
  let network ← askNetwork n
  let locks ← if t.derived then derivedLocks b.host t else do
    let lock ← step .identity (t.identity.resolve network)
    pure [lock]
  let totals ← ExceptT.adapt CommandFault.balance (Balance.totals n index locks)
  print b.host (Balance.summary totals).toJson

/-- The key of the cells that are asked for. -/
def cellsKey (network : Network) (t : CellsJob) : Except CommandFault SearchKey :=
  match t.lockHash.isSome || t.address.isSome, t.typeHash, t.codeHash with
  | true, _, _ => do
    let hash ← ((⟨t.lockHash, t.address, none, none⟩ : Identity).resolve network).mapError .identity
    pure (.lock hash)
  | false, some text, _ => do
    let hash ← (ScriptHash.parse "type hash" text).mapError .scriptHash
    pure ⟨.type, hash⟩
  | false, none, some text => do
    let hash ← (ScriptHash.parse "code hash" text).mapError .scriptHash
    pure ⟨.code, hash⟩
  | false, none, none => .error .noKey

/-- Prints live cells. -/
def cellsJob (b : Bench m) (t : CellsJob) : Working m Unit := do
  let index ← openIndex b
  let n := node b
  let network ← askNetwork n
  let key ← step id (cellsKey network t)
  let page ← ExceptT.adapt CommandFault.balance (Balance.page n index key t.limit t.start t.stop t.fast)
  print b.host page.toJson

/-- Prints the locks that own the most. -/
def holdersJob (b : Bench m) (count : Int) (network : Network) : Working m Unit := do
  let index ← openIndex b
  print b.host (.arr ((Ranking.holders network index count).map Holder.toJson))

/-- Prints counts. -/
def metricsJob (b : Bench m) : Working m Unit := do
  let index ← openIndex b
  print b.host index.metrics.toJson

/-- Does the job of a command. -/
def work (b : Bench m) : Working m Unit :=
  match b.command.job with
  | .transfer t => transferJob b t
  | .capacity t => capacityJob b t
  | .cells t => cellsJob b t
  | .holders count network => holdersJob b count network
  | .metrics => metricsJob b

/-! ## Command lines -/

/-- Where the file of settings is. -/
def settingsPlace : String := ".env"

/-- What is said of a statement without sense in the file of settings. -/
def senselessText (line : Nat) : String :=
  "python-dotenv could not parse statement starting at line " ++ toString line

/-- Reads the settings. -/
def readSettings (h : Host m) : m (Except CommandFault Settings) := do
  match ← h.look settingsPlace with
  | .file content =>
    match Entry.text? content with
    | some text => do
      (Variables.senseless text).forM fun line => h.warn (senselessText line)
      pure ((Settings.read h.environment (some text)).mapError .settings)
    | none => pure (.error (.file settingsPlace .notText))
  | _ => pure ((Settings.read h.environment none).mapError .settings)

/-- The level of the notes that are seen. -/
def threshold (c : Command) (s : Settings) : Except CommandFault Level :=
  let word := String.ofList (Text.Case.upper (wordOr c.level s.level).toList)
  match Level.ofName? word with
  | some l => .ok l
  | none => .error (.level word)

/-- Tells how a job ended. -/
def ending (h : Host m) (result : Except CommandFault Unit) : Heard m Ending := do
  match result with
  | .ok _ => pure .done
  | .error .aborted => do
    h.warn "Aborted."
    pure .aborted
  | .error f =>
    match f.note? with
    | some text => do
      Journal.error text
      pure .refused
    | none => pure (.broken f)

/-- Does a command. -/
def execute (h : Host m) (c : Command) : m Ending := do
  match ← readSettings h with
  | .error f => pure (.broken f)
  | .ok settings =>
    match threshold c settings with
    | .error f => pure (.broken f)
    | .ok l =>
      ((do ending h (← (work ⟨h, settings, c⟩).run.run' 0)) : Heard m Ending).run l

/-- A command line from its words to its ending. -/
def perform (h : Host m) (arguments : List String) : m Ending := do
  match parse arguments with
  | .error f => pure (.misused f)
  | .ok c => execute h c

end CellPurse.Command
