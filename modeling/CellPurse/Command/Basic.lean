import CellPurse.Address.Basic
import CellPurse.Address.Identity
import CellPurse.Command.Arguments

/-!
# CellPurse.Command.Basic — what a command line asks for

* `TransferJob`, `CapacityJob`, `CellsJob`, `Job`: the jobs and what they are told;
* `Command`: a job, and what may be said for any job;
* `Command.parse`: the command of a command line.
-/

namespace CellPurse

/-- A transfer. -/
structure TransferJob where
  toAddress : String
  amount : String
  fee : String
  secretFile : Option String
  account : Option String
  wordsFile : Option String
  lockedAddress : Option String
  data : Option String
  dataFile : Option String
  receiving : Int
  changeAddress : Option String
  skipCheck : Bool
  /-- The whole transaction is printed, not only its hash. -/
  whole : Bool
  deriving DecidableEq, Repr

/-- A question for what is owned. -/
structure CapacityJob where
  identity : Identity
  /-- Of an account with its derived keys. -/
  derived : Bool
  wordsFile : Option String
  receiving : Int
  change : Int
  deriving DecidableEq, Repr

/-- A question for live cells. -/
structure CellsJob where
  lockHash : Option String
  typeHash : Option String
  codeHash : Option String
  address : Option String
  limit : Int
  start : Option Int
  stop : Option Int
  fast : Bool
  deriving DecidableEq, Repr

/-- What a purse can do. -/
inductive Job where
  | transfer (t : TransferJob)
  | capacity (t : CapacityJob)
  | cells (t : CellsJob)
  /-- The locks that own the most. -/
  | holders (count : Int) (network : Network)
  | metrics
  deriving DecidableEq, Repr

/-- A job, and what may be said for any job. -/
structure Command where
  job : Job
  snapshot : Option String
  url : Option String
  level : Option String
  deriving DecidableEq, Repr

namespace Command

/-! ## Options -/

/-- The options of jobs with an index. -/
def offline : List Switch := [⟨"--index-snapshot", some 'i', true⟩, ⟨"--log-level", some 'l', true⟩]

/-- The options of jobs with an index and a node. -/
def online : List Switch := ⟨"--rpc-url", none, true⟩ :: offline

/-- Options that take a value and have no letter. -/
def plain (names : List String) : List Switch := names.map fun n => ⟨n, none, true⟩

/-- Options that take no value. -/
def flags (names : List String) : List Switch := names.map fun n => ⟨n, none, false⟩

/-- The option for a file of words. -/
def words : Switch := ⟨"--mnemonic-file", some 'f', true⟩

/-- How many keys to receive are derived if nothing is said. -/
def usualReceiving : Int := 1000

/-- How many keys for change are derived if nothing is said. -/
def usualChange : Int := 1000

/-- A command with what may be said for any job. -/
def make (g : Given) (job : Job) : Except Misuse Command := do
  let snapshot ← g.place? "--index-snapshot"
  pure ⟨job, snapshot, g.text? "--rpc-url", g.text? "--log-level"⟩

/-! ## Tasks -/

/-- Reads a transfer. -/
def transfer (arguments : List String) : Except Misuse Command := do
  let g ← Given.ofArguments (words :: online ++
    plain ["--to-address", "--capacity", "--tx-fee", "--privkey-path", "--from-account", "--from-locked-address",
      "--to-data", "--to-data-path", "--derive-receiving-address-length", "--derive-change-address"] ++
    flags ["--skip-check", "--debug"]) arguments
  let toAddress ← g.text "--to-address"
  let amount ← g.text "--capacity"
  let fee ← g.text "--tx-fee"
  let receiving ← g.integer "--derive-receiving-address-length" usualReceiving
  let secretFile ← g.place? "--privkey-path"
  let wordsFile ← g.place? words.name
  let dataFile ← g.place? "--to-data-path"
  make g (.transfer {
    toAddress, amount, fee, secretFile, wordsFile, dataFile, receiving
    account := g.text? "--from-account"
    lockedAddress := g.text? "--from-locked-address"
    data := g.text? "--to-data"
    changeAddress := g.text? "--derive-change-address"
    skipCheck := g.has "--skip-check"
    whole := g.has "--debug" })

/-- Reads a question for what is owned. -/
def capacity (arguments : List String) : Except Misuse Command := do
  let g ← Given.ofArguments (words :: online ++
    plain ["--lock-hash", "--address", "--pubkey", "--lock-arg", "--derive-receiving-address-length",
      "--derive-change-address-length"] ++
    flags ["--derived"]) arguments
  let receiving ← g.integer "--derive-receiving-address-length" usualReceiving
  let change ← g.integer "--derive-change-address-length" usualChange
  let wordsFile ← g.place? words.name
  make g (.capacity {
    identity := ⟨g.text? "--lock-hash", g.text? "--address", g.text? "--pubkey", g.text? "--lock-arg"⟩
    derived := g.has "--derived"
    wordsFile, receiving, change })

/-- Reads a question for live cells. -/
def cells (arguments : List String) : Except Misuse Command := do
  let g ← Given.ofArguments (online ++
    plain ["--lock-hash", "--type-hash", "--code-hash", "--address", "--limit", "--from", "--to"] ++
    flags ["--fast-mode"]) arguments
  let limit ← g.bounded "--limit" 15 1
  let start ← g.integer? "--from"
  let stop ← g.integer? "--to"
  make g (.cells {
    lockHash := g.text? "--lock-hash"
    typeHash := g.text? "--type-hash"
    codeHash := g.text? "--code-hash"
    address := g.text? "--address"
    limit, start, stop
    fast := g.has "--fast-mode" })

/-- Reads a question for the locks that own the most. -/
def holders (arguments : List String) : Except Misuse Command := do
  let g ← Given.ofArguments (offline ++ [⟨"--number", some 'n', true⟩, ⟨"--network", none, true⟩]) arguments
  let count ← g.bounded "--number" 10 1
  let network ← g.choice "--network" .mainnet Network.ofName?
  make g (.holders count network)

/-- Reads a question for counts. -/
def metrics (arguments : List String) : Except Misuse Command := do
  let g ← Given.ofArguments offline arguments
  make g .metrics

/-- The jobs by their names. -/
def ofName (name : String) (arguments : List String) : Except Misuse Command :=
  match name with
  | "transfer" => transfer arguments
  | "get-capacity" => capacity arguments
  | "get-live-cells" => cells arguments
  | "top-capacity" => holders arguments
  | "db-metrics" => metrics arguments
  | _ => .error (.unknownCommand name)

/-- The command of a command line, which may start with two dashes. -/
def parse : List String → Except Misuse Command
  | "--" :: name :: arguments => ofName name arguments
  | "--" :: [] | [] => .error .noCommand
  | name :: arguments => ofName name arguments

end Command

end CellPurse
