import CellPurse.Bytes.Basic
import CellPurse.Node.Rpc
import CellPurse.Text.Lines

/-!
# CellPurse.Command.Host — what a command finds around it

* `Entry`: what is at a place among files;
* `Host`: the environment, files, the two outputs, the lines of the input, and the way to a node;
* `Entry.text?`: the text of a file, with every end of a line as a line feed.
-/

namespace CellPurse

/-- What is at a place among files. -/
inductive Entry where
  | absent
  /-- The place goes through a file. -/
  | underFile
  /-- The place, or a part of it, is longer than any may be. -/
  | tooLong
  | directory
  | file (content : Bytes)
  deriving DecidableEq, Repr

/-- What a command finds around it. -/
structure Host (m : Type → Type) where
  /-- The variables of the environment. -/
  environment : List (String × String)
  look : String → m Entry
  /-- The next line of the input without its end, unseen while it is typed. -/
  line : m (Option String)
  write : String → m Unit
  /-- Writes a line where faults go. -/
  warn : String → m Unit
  /-- Bytes that nobody can guess. -/
  salt : m Bytes
  /-- Sends a document and waits for some seconds. -/
  post : Float → Url → Json → m Reply

namespace Entry

/-- There is nothing at the place. -/
def isMissing : Entry → Bool
  | absent | underFile => true
  | _ => false

/-- The text of bytes. -/
def text? (content : Bytes) : Option String :=
  (String.fromUTF8? (ByteArray.mk content.toArray)).map fun s => String.ofList (Text.Lines.plain s.toList)

end Entry

end CellPurse
