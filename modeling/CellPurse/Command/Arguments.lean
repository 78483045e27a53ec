import CellPurse.Assoc
import CellPurse.Settings.Location
import CellPurse.Settings.Numeral

/-!
# CellPurse.Command.Arguments — options on a command line

An option has a long name after two dashes and perhaps a short one, a letter after one dash.  A value follows as the
next argument, after an equals sign behind a long name, or at once behind a letter.  Two dashes end the options.

* `Switch`: an option and whether it takes a value;
* `Misuse`: what is wrong with a command line;
* `Arguments.scan`: the options of a command line with their values;
* `Given`: the options that are given, the last value of each, and the readers of values.
-/

namespace CellPurse

/-- What is wrong with a command line. -/
inductive Misuse where
  | noCommand
  | unknownCommand (name : String)
  | unknownOption (name : String)
  /-- The option takes a value, and none follows. -/
  | noValue (name : String)
  /-- The option takes no value. -/
  | strayValue (name : String)
  /-- An argument that belongs to no option. -/
  | strayArgument (text : String)
  | missing (name : String)
  | notInteger (name text : String)
  | below (name : String) (least : Int)
  | notChoice (name text : String)
  /-- The text holds the character that ends the names of files. -/
  | notPlace (name text : String)
  deriving DecidableEq, Repr

/-- The misuse in words. -/
def Misuse.message : Misuse → String
  | noCommand => "Missing command."
  | unknownCommand name => "No such command " ++ Text.Quoted.quote name ++ "."
  | unknownOption name => "No such option: " ++ name
  | noValue name => "Option " ++ Text.Quoted.quote name ++ " requires an argument."
  | strayValue name => "Option " ++ Text.Quoted.quote name ++ " does not take a value."
  | strayArgument text => "Got unexpected extra argument (" ++ text ++ ")"
  | missing name => "Missing option " ++ Text.Quoted.quote name ++ "."
  | notInteger name text =>
    "Invalid value for " ++ Text.Quoted.quote name ++ ": " ++ Text.Quoted.quote text ++ " is not a valid integer."
  | below name least =>
    "Invalid value for " ++ Text.Quoted.quote name ++ ": the least value is " ++ toString least ++ "."
  | notChoice name text =>
    "Invalid value for " ++ Text.Quoted.quote name ++ ": " ++ Text.Quoted.quote text ++ " is no choice."
  | notPlace name text =>
    "Invalid value for " ++ Text.Quoted.quote name ++ ": " ++ Text.Quoted.quote text ++ " is no path."

/-- An option. -/
structure Switch where
  name : String
  letter : Option Char := none
  takesValue : Bool := true
  deriving DecidableEq, Repr

namespace Arguments

/-- An option with its value, empty where it takes none. -/
abbrev Setting := String × String

/-- What one argument says. -/
inductive Reading where
  /-- Options that are complete. -/
  | complete (settings : List Setting)
  /-- Options that are complete, and one whose value is the next argument. -/
  | open_ (settings : List Setting) (name : String)
  deriving DecidableEq, Repr

/-- Puts an option in front. -/
def Reading.cons (s : Setting) : Reading → Reading
  | complete settings => complete (s :: settings)
  | open_ settings name => open_ (s :: settings) name

/-- Reads an argument with a long name. -/
def long (known : List Switch) (cs : List Char) : Except Misuse Reading :=
  let name := String.ofList (cs.takeWhile (· ≠ '='))
  match known.find? fun s => s.name = name, cs.dropWhile (· ≠ '=') with
  | none, _ => .error (.unknownOption name)
  | some s, [] => .ok (if s.takesValue then .open_ [] s.name else .complete [(s.name, "")])
  | some s, _ :: value =>
    if s.takesValue then .ok (.complete [(s.name, String.ofList value)]) else .error (.strayValue name)

/-- Reads letters.  What stands behind a letter with a value is the value. -/
def letters (known : List Switch) : List Char → Except Misuse Reading
  | [] => .ok (.complete [])
  | c :: r =>
    match known.find? fun s => s.letter = some c with
    | none => .error (.unknownOption (String.ofList ['-', c]))
    | some s =>
      if s.takesValue then
        .ok (if r.isEmpty then .open_ [] s.name else .complete [(s.name, String.ofList r)])
      else (letters known r).map (Reading.cons (s.name, ""))

/-- Reads one argument. -/
def reading (known : List Switch) (text : String) : Except Misuse Reading :=
  match text.toList with
  | '-' :: '-' :: r => long known ('-' :: '-' :: r)
  | '-' :: c :: r => letters known (c :: r)
  | _ => .error (.strayArgument text)

/-- The options of a command line in order. -/
def scan (known : List Switch) : List String → Except Misuse (List Setting)
  | [] => .ok []
  | a :: r =>
    if a = "--" then
      match r with
      | [] => .ok []
      | b :: _ => .error (.strayArgument b)
    else
      match reading known a with
      | .error m => .error m
      | .ok (.complete settings) => (scan known r).map (settings ++ ·)
      | .ok (.open_ settings name) =>
        match r with
        | [] => .error (.noValue name)
        | value :: r => (scan known r).map fun rest => settings ++ (name, value) :: rest

end Arguments

/-- The options that are given, each with its last value. -/
structure Given where
  values : Assoc String String
  deriving DecidableEq, Repr

namespace Given

/-- The options of a command line. -/
def ofArguments (known : List Switch) (arguments : List String) : Except Misuse Given := do
  let settings ← Arguments.scan known arguments
  pure ⟨settings.foldl (fun m s => m.set s.1 s.2) []⟩

/-- The option is given. -/
def has (g : Given) (name : String) : Bool := Assoc.has name g.values

/-- The value of an option. -/
def text? (g : Given) (name : String) : Option String := g.values.get? name

/-- The value of an option that must be given. -/
def text (g : Given) (name : String) : Except Misuse String :=
  match g.text? name with
  | some t => .ok t
  | none => .error (.missing name)

/-- The integer of an option. -/
def integer? (g : Given) (name : String) : Except Misuse (Option Int) :=
  match g.text? name with
  | none => .ok none
  | some t =>
    match Numeral.integer t with
    | .ok n => .ok (some n)
    | .error _ => .error (.notInteger name t)

/-- The integer of an option with a default. -/
def integer (g : Given) (name : String) (default : Int) : Except Misuse Int := do
  pure ((← g.integer? name).getD default)

/-- The integer of an option with a default and a least value. -/
def bounded (g : Given) (name : String) (default least : Int) : Except Misuse Int := do
  let n ← g.integer name default
  if n < least then throw (.below name least) else pure n

/-- The place that an option names. -/
def place? (g : Given) (name : String) : Except Misuse (Option String) :=
  match g.text? name with
  | none => .ok none
  | some t => if t.contains '\x00' then .error (.notPlace name t) else .ok (some (Location.normal t))

/-- The choice of an option with a default. -/
def choice {α : Type} (g : Given) (name : String) (default : α) (ofName? : String → Option α) : Except Misuse α :=
  match g.text? name with
  | none => .ok default
  | some t =>
    match ofName? t with
    | some a => .ok a
    | none => .error (.notChoice name t)

end Given

end CellPurse
