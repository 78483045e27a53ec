import CellPurse.Assoc
import CellPurse.Text.Blank
import CellPurse.Text.Lines

/-!
# CellPurse.Settings.Variables — files of variables

Each line of a file of variables binds a name: `NAME=value`, perhaps after the word `export`.  A value stands alone up
to a comment, or in quotes of either kind, where it may run over lines.  A name without an equals sign is bound to
nothing.  A line that makes no sense is passed over.  Values may mention variables as `${NAME}` or `${NAME:-default}`.
Lines end with line feeds, and a mark of the byte order in front of the text is none of it.

* `Variables.statements`: what a text says, statement by statement;
* `Variables.bindings`, `Variables.senseless`: the names and values as they are written, and the lines at which the
  statements without sense start;
* `Variables.resolve`: names and values with the mentioned variables put in;
* `Variables.ofText`: the variables of a text.
-/

namespace CellPurse.Variables

open Text

/-- A name and what is bound to it. -/
abbrev Binding := String × Option String

/-- What a statement comes to. -/
inductive Statement where
  | binding (b : Binding)
  /-- It makes no sense; it starts where the one before it ends. -/
  | senseless (line : Nat)
  deriving DecidableEq, Repr

/-! ## Lines -/

/-- A blank that does not end a line. -/
def isInner (c : Char) : Bool := Blank.isBlank c && c ≠ '\n'

/-- A character that ends no line. -/
def isLine (c : Char) : Bool := c ≠ '\n'

/-- The text after the rest of a line. -/
def afterLine (cs : List Char) : List Char := (cs.dropWhile isLine).drop 1

/-- The text after blanks, a comment and the end of the line; none if something else comes first. -/
def ended (cs : List Char) : Option (List Char) :=
  let r := match cs.dropWhile isInner with
    | '#' :: r => r.dropWhile isLine
    | r => r
  match r.dropWhile isInner with
  | [] => some []
  | c :: rest => if isLine c then none else some rest

/-- Drops the word `export` and the blanks after it. -/
def unexport (cs : List Char) : List Char :=
  match cs with
  | 'e' :: 'x' :: 'p' :: 'o' :: 'r' :: 't' :: c :: r => if isInner c then r.dropWhile isInner else cs
  | _ => cs

/-! ## Names and values -/

/-- A character of a name that is not in quotes. -/
def isName (c : Char) : Bool := c ≠ '=' && c ≠ '#' && !Blank.isBlank c

/-- The name that comes next, `none` in front of a comment; the rest where there is no name. -/
def name (cs : List Char) : Except (List Char) (Option String × List Char) :=
  match cs with
  | '#' :: _ => .ok (none, cs)
  | '\'' :: r =>
    let word := r.takeWhile (· ≠ '\'')
    let rest := r.dropWhile (· ≠ '\'')
    if word.isEmpty ∨ rest.isEmpty then .error cs else .ok (some (String.ofList word), rest.drop 1)
  | _ =>
    let word := cs.takeWhile isName
    if word.isEmpty then .error cs else .ok (some (String.ofList word), cs.dropWhile isName)

/-- The text up to the quote that closes it, and the rest.  A backslash makes a pair with the quote or the backslash
behind it, and a quote in a pair closes nothing. -/
def quoted (q : Char) : List Char → Option (List Char × List Char)
  | [] => none
  | [c] => if c = q then some ([], []) else none
  | c :: d :: r =>
    if c = q then some ([], d :: r)
    else if c = '\\' ∧ (d = '\\' ∨ d = q) then (quoted q r).map fun (text, rest) => (c :: d :: text, rest)
    else (quoted q (d :: r)).map fun (text, rest) => (c :: text, rest)

/-- The character that a letter after a backslash stands for in double quotes. -/
def escapeDouble? : Char → Option Char
  | '\\' => some '\\'
  | '\'' => some '\''
  | '"' => some '"'
  | 'a' => some '\x07'
  | 'b' => some '\x08'
  | 'f' => some '\x0c'
  | 'n' => some '\n'
  | 'r' => some '\r'
  | 't' => some '\t'
  | 'v' => some '\x0b'
  | _ => none

/-- The character that a letter after a backslash stands for in single quotes. -/
def escapeSingle? : Char → Option Char
  | '\\' => some '\\'
  | '\'' => some '\''
  | _ => none

/-- Replaces escapes. -/
def unescape (escape? : Char → Option Char) : List Char → List Char
  | [] => []
  | [c] => [c]
  | c :: d :: r =>
    match if c = '\\' then escape? d else none with
    | some e => e :: unescape escape? r
    | none => c :: unescape escape? (d :: r)

/-- The text in front of a comment, which starts with blanks and a number sign. -/
def uncommented : List Char → List Char
  | [] => []
  | c :: r => if Blank.isBlank c ∧ (r.dropWhile Blank.isBlank).head? = some '#' then [] else c :: uncommented r

/-- The value that comes next; none where a quote stays open. -/
def value (cs : List Char) : Option (String × List Char) :=
  match cs with
  | '\'' :: r => (quoted '\'' r).map fun (text, rest) => (String.ofList (unescape escapeSingle? text), rest)
  | '"' :: r => (quoted '"' r).map fun (text, rest) => (String.ofList (unescape escapeDouble? text), rest)
  | _ =>
    let text := uncommented (cs.takeWhile isLine)
    some (String.ofList (text.reverse.dropWhile Blank.isBlank).reverse, cs.dropWhile isLine)

/-! ## Files -/

/-- The value after an equals sign; a comment after blanks leaves it empty. -/
def assigned (cs : List Char) : Except (List Char) (String × List Char) :=
  let r := cs.dropWhile isInner
  if (cs.head?.any isInner) ∧ r.head? = some '#' then .ok ("", r)
  else
    match value r with
    | some found => .ok found
    | none => .error r

/-- The value after a name; the rest where there is none to be read. -/
def bound (cs : List Char) : Except (List Char) (Option String × List Char) :=
  match cs.dropWhile isInner with
  | '=' :: r => (assigned r).map fun (text, rest) => (some text, rest)
  | r => .ok (none, r)

/-- The binding that comes next, and the rest; where there is none, the text from where it goes wrong. -/
def binding (cs : List Char) : Except (List Char) (Option Binding × List Char) := do
  let (name, r) ← name (unexport cs)
  let (value, r) ← bound r
  match ended r with
  | some rest => pure (name.map fun n => (n, value), rest)
  | none => throw r

/-- The statements of a text from a line on; each round takes a character at least. -/
def collect : Nat → Nat → List Char → List Statement
  | 0, _, _ => []
  | fuel + 1, line, cs =>
    let next (rest : List Char) := collect fuel (line + Lines.count cs - Lines.count rest) rest
    match cs.dropWhile Blank.isBlank with
    | [] => []
    | r =>
      match binding r with
      | .ok (some b, rest) => .binding b :: next rest
      | .ok (none, rest) => next rest
      | .error rest => .senseless line :: next (afterLine rest)

/-- The text without a mark of the byte order. -/
def unmarked : List Char → List Char
  | '\ufeff' :: r => r
  | cs => cs

/-- What a text says. -/
def statements (s : String) : List Statement := collect s.length 1 (unmarked s.toList)

/-- The names and values of a text. -/
def bindings (s : String) : List Binding :=
  (statements s).filterMap fun
    | .binding b => some b
    | .senseless _ => none

/-- The lines at which statements without sense start. -/
def senseless (s : String) : List Nat :=
  (statements s).filterMap fun
    | .binding _ => none
    | .senseless line => some line

/-! ## Mentioned variables -/

/-- The name, the default and the rest of a mention, after its opening brace. -/
def mention (cs : List Char) : Option (String × String × List Char) :=
  let name := String.ofList (cs.takeWhile fun c => c ≠ '\x7d' && c ≠ ':')
  match cs.dropWhile fun c => c ≠ '\x7d' && c ≠ ':' with
  | ':' :: '-' :: r =>
    match r.dropWhile (· ≠ '\x7d') with
    | _ :: rest => some (name, String.ofList (r.takeWhile (· ≠ '\x7d')), rest)
    | [] => none
  | '\x7d' :: rest => some (name, "", rest)
  | _ => none

/-- Puts in the mentioned variables: `look` gives what is bound to a name. -/
def expand (look : String → Option (Option String)) : Nat → List Char → List Char
  | 0, cs => cs
  | _, [] => []
  | fuel + 1, '$' :: '\x7b' :: r =>
    match mention r with
    | some (name, default, rest) =>
      (((look name).getD (some default)).getD "").toList ++ expand look fuel rest
    | none => '$' :: expand look fuel ('\x7b' :: r)
  | fuel + 1, c :: r => c :: expand look fuel r

/-- Puts variables into values in order.  A value sees the environment and, before it, the names bound above. -/
def resolve (environment : Assoc String String) (bs : List Binding) : Assoc String (Option String) :=
  bs.foldl (fun above b =>
    let look (name : String) := (above.get? name).or ((environment.get? name).map some)
    above.set b.1 (b.2.map fun text => String.ofList (expand look text.length text.toList))) []

/-- The variables of a text. -/
def ofText (environment : Assoc String String) (s : String) : Assoc String (Option String) :=
  resolve environment (bindings s)

end CellPurse.Variables
