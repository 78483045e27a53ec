import CellPurse.Text.Quoted

/-!
# CellPurse.Json.Text — texts of documents

A document is written in units of sixteen bits, two of which make one character where sixteen bits do not suffice.  A
text may hold one half of such a pair without the other.  It is no character, but it is kept.

* `JsonText`: characters, and halves between them;
* `JsonText.chars`: the characters, with the replacement character in place of each half;
* `JsonText.ofMarks`: the text of characters and halves;
* `JsonText.quoted`: the text in quotes.
-/

namespace CellPurse

open Text

/-- A text of a document. -/
structure JsonText where
  /-- The characters in front of the first half. -/
  first : String
  /-- Each half, and the characters behind it. -/
  rest : List (Nat × String) := []
  deriving DecidableEq, Repr, Inhabited

instance : Coe String JsonText := ⟨fun s => ⟨s, []⟩⟩

namespace JsonText

/-- A part of a text. -/
inductive Mark where
  | char (c : Char)
  | half (code : Nat)
  deriving DecidableEq, Repr

/-- The character in place of a half. -/
def replacement : Char := '\ufffd'

/-- The text as characters. -/
def chars (t : JsonText) : String :=
  String.ofList (t.first.toList ++ t.rest.flatMap fun h => replacement :: h.2.toList)

/-- A text without halves has its characters as they are. -/
@[simp] theorem chars_coe (s : String) : (s : JsonText).chars = s := by simp [chars]

/-- Puts a part in front of characters, and of halves with what is behind them. -/
def push (parts : List Char × List (Nat × String)) : Mark → List Char × List (Nat × String)
  | .char c => (c :: parts.1, parts.2)
  | .half h => ([], (h, String.ofList parts.1) :: parts.2)

/-- The text of parts that are given from the last to the first. -/
def ofMarks (marks : List Mark) : JsonText :=
  let parts := marks.foldl push ([], [])
  ⟨String.ofList parts.1, parts.2⟩

/-- The text in quotes, halves by their codes. -/
def quoted (t : JsonText) : String :=
  let q := Quoted.mark t.chars.toList
  let plain (s : String) := s.toList.flatMap (Quoted.escape q)
  String.ofList (q :: (plain t.first ++ t.rest.flatMap fun h => '\\' :: 'u' :: (Quoted.code 4 h.1 ++ plain h.2)) ++ [q])

/-- A text without halves in quotes. -/
theorem quoted_coe (s : String) : (s : JsonText).quoted = Quoted.quote s := by simp [quoted, Quoted.quote]

end JsonText

end CellPurse
