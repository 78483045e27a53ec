/-!
# CellPurse.Note — what is said on the way

Notes tell how a run goes; they change nothing.  Each has a level, and a reader sees the notes of a level or above.

* `Level`, `Note`: a level with its number and word, and a note;
* `Journal`: the monads that keep notes; transformers pass them on;
* `Heard`: a monad in which only the notes of a level or above are kept.
-/

namespace CellPurse

/-- How much a note matters. -/
inductive Level where
  | trace
  | debug
  | info
  | success
  | warning
  | error
  | critical
  deriving DecidableEq, Repr

namespace Level

/-- The number of a level. -/
def toNat : Level → Nat
  | trace => 5
  | debug => 10
  | info => 20
  | success => 25
  | warning => 30
  | error => 40
  | critical => 50

/-- The word of a level. -/
def name : Level → String
  | trace => "TRACE"
  | debug => "DEBUG"
  | info => "INFO"
  | success => "SUCCESS"
  | warning => "WARNING"
  | error => "ERROR"
  | critical => "CRITICAL"

/-- All levels. -/
def all : List Level := [trace, debug, info, success, warning, error, critical]

/-- The level with a word. -/
def ofName? (word : String) : Option Level := all.find? fun l => l.name = word

theorem mem_all (l : Level) : l ∈ all := by cases l <;> decide

end Level

/-- Something that is said. -/
structure Note where
  level : Level
  text : String
  deriving DecidableEq, Repr

namespace Note

/-- The note is seen at a level. -/
def isSeen (threshold : Level) (n : Note) : Bool := threshold.toNat ≤ n.level.toNat

/-- How wide the level of a note is written. -/
def levelWidth : Nat := 8

/-- The note as a line: its level, filled with blanks, and its text. -/
def line (n : Note) : String :=
  n.level.name ++ String.ofList (List.replicate (levelWidth - n.level.name.length) ' ') ++ " | " ++ n.text

end Note

/-- A monad that keeps notes. -/
class Journal (m : Type → Type) where
  write : Note → m Unit

namespace Journal

variable {m : Type → Type}

instance {σ : Type} [Monad m] [Journal m] : Journal (StateT σ m) := ⟨fun n => StateT.lift (write n)⟩

instance {ε : Type} [Monad m] [Journal m] : Journal (ExceptT ε m) := ⟨fun n => ExceptT.lift (write n)⟩

/-- Says something of interest to those who look for faults. -/
def debug [Journal m] (text : String) : m Unit := write ⟨.debug, text⟩

/-- Says how a run goes. -/
def info [Journal m] (text : String) : m Unit := write ⟨.info, text⟩

/-- Says what went wrong. -/
def error [Journal m] (text : String) : m Unit := write ⟨.error, text⟩

end Journal

/-- A run in which only the notes of a level or above are kept. -/
abbrev Heard (m : Type → Type) := ReaderT Level m

instance {m : Type → Type} [Monad m] [Journal m] : Journal (Heard m) :=
  ⟨fun n level => if n.isSeen level then Journal.write n else pure ()⟩

end CellPurse
