import CellPurse.Address.Identity
import CellPurse.Balance.Basic
import CellPurse.Cells.Snapshot
import CellPurse.Command.Arguments
import CellPurse.Settings.Field
import CellPurse.Transfer.Fault

/-!
# CellPurse.Command.Fault — why a command fails

A fault that the user can do something about is told as a note.  Any other fault is one of the data or of the program,
and it is left to whoever runs the command.

* `CommandFault`: the causes;
* `CommandFault.note?`: the note of a fault that is told;
* `Ending`: how a command ends, with its status.
-/

namespace CellPurse

/-- Why a file does not give its content. -/
inductive FileFault where
  | absent
  /-- The place goes through a file. -/
  | underFile
  /-- The place is longer than any may be. -/
  | tooLong
  | directory
  /-- The content is no text. -/
  | notText
  deriving DecidableEq, Repr

/-- Why the input of a transfer makes no sense. -/
inductive InputFault where
  | hex (f : HexFault)
  | key (f : KeyFault)
  | notText
  deriving DecidableEq, Repr

/-- Why a command fails. -/
inductive CommandFault where
  | settings (fs : List FieldFault)
  /-- There is no such level. -/
  | level (word : String)
  | file (place : String) (f : FileFault)
  /-- There is no file with a secret. -/
  | noSecret (what place : String)
  /-- No password was typed. -/
  | aborted
  | bothData
  | input (f : InputFault)
  | noSnapshot
  | snapshotAbsent (place : String)
  | snapshot (place : String) (f : SnapshotFault)
  | key (f : KeyFault)
  | noWords
  | noKey
  | identity (f : IdentityFault)
  | scriptHash (f : ScriptHashFault)
  | node (f : NodeFault)
  | transfer (f : TransferFault)
  | balance (f : BalanceFault)
  /-- A document holds a number of too many digits to be printed. -/
  | number (f : LiteralFault)
  deriving DecidableEq, Repr

/-- The fault in words. -/
def InputFault.message : InputFault → String
  | hex f => f.message
  | key f => f.message
  | notText => SnapshotFault.malformed

/-- What the fault is about. -/
def FileFault.kind : FileFault → FaultKind
  | absent => .noFile
  | underFile => .noDirectory
  | tooLong => .placeLength
  | directory => .directory
  | notText => .notText

namespace CommandFault

/-- What the fault is about. -/
def kind : CommandFault → FaultKind
  | settings _ => .settings
  | level _ | key _ | number _ | aborted => .value
  | file _ f => f.kind
  | snapshot _ f => f.kind
  | identity f => f.kind
  | scriptHash _ => .input
  | node f => f.kind
  | transfer f => f.kind
  | balance f => f.kind
  | noSecret _ _ | bothData | input _ | noSnapshot | snapshotAbsent _ | noWords | noKey => .input

/-- The fault in words. -/
def message? : CommandFault → Option String
  | noSecret what place => some (what ++ " file not found: " ++ place)
  | bothData => some "Use only one of --to-data and --to-data-path"
  | input f => some ("Invalid input: " ++ f.message)
  | noSnapshot => some "Index snapshot required. Use --index-snapshot or CELLWALLET_INDEX_SNAPSHOT"
  | snapshotAbsent place => some ("Index snapshot not found: " ++ place)
  | snapshot place f =>
    match f.reason? with
    | some reason => some ("Invalid index snapshot " ++ place ++ ": " ++ reason)
    | none => f.message?
  | noWords => some "--derived requires --mnemonic-file"
  | noKey => some "lock-hash or type-hash or code-hash or address is required"
  | level word => some ("Level " ++ Text.Quoted.quote word ++ " does not exist")
  | key f => some f.message
  | identity f => f.message?
  | scriptHash f => some f.message
  | node f => f.message?
  | transfer f => f.message?
  | balance f => f.message?
  | number f => some f.message
  | settings _ | file _ _ | aborted => none

/-- The note of a fault that is told. -/
def note? (f : CommandFault) : Option String := if f.kind.isTold then f.message? else none

end CommandFault

instance : Fault CommandFault := ⟨CommandFault.kind, CommandFault.message?⟩

/-- How a command ends. -/
inductive Ending where
  | done
  | misused (f : Misuse)
  /-- The fault was told. -/
  | refused
  /-- No password was typed. -/
  | aborted
  /-- The fault is left to whoever runs the command. -/
  | broken (f : CommandFault)
  deriving DecidableEq, Repr

/-- The status of a command. -/
def Ending.status : Ending → Nat
  | done => 0
  | misused _ => 2
  | refused | aborted | broken _ => 1

end CellPurse
