import CellPurse.Node.Rpc
import CellPurse.Settings.Field
import CellPurse.Settings.Location
import CellPurse.Settings.Variables
import CellPurse.Text.Case

/-!
# CellPurse.Settings.Basic — what a purse is set to

Settings come from the environment and, where it says nothing, from a file of variables.  Their variables have a common
start, and upper and lower case are one.  A file may hold nothing but settings.

* `Settings`: the settings with what they are if nothing is said;
* `Settings.read`: the settings of an environment and the text of a file.
-/

namespace CellPurse

/-- What a purse is set to. -/
structure Settings where
  /-- Where the node is. -/
  url : String := Rpc.defaultUrl
  /-- How many seconds an answer may take. -/
  timeout : Float := 30.0
  /-- Where the snapshot of the index is. -/
  snapshot : Option String := none
  /-- The level of the notes that are seen. -/
  level : String := "INFO"
  limits : Limits := .usual

namespace Settings

/-- How the variables of settings start. -/
def start : String := "cellwallet_"

/-- The settings there are. -/
def fields : List String :=
  ["rpc_url", "rpc_timeout", "index_snapshot", "log_level", "fee_ceiling", "min_cell_capacity", "derive_change_max_len"]

/-- Variables with their names in lower case; of two that become one the later one counts. -/
def lowered {α : Type} (vs : List (String × α)) : Assoc String α :=
  vs.foldl (fun m v => m.set (String.ofList (Text.Case.lower v.1.toList)) v.2) []

/-- The text of a setting: that of the environment, else that of the file. -/
def look (environment : Assoc String String) (file : Assoc String (Option String)) (field : String) : Option String :=
  (environment.get? (start ++ field)).or ((file.get? (start ++ field)).bind id)

/-- The variable of the file is a setting, or it is bound to nothing. -/
def isKnown (v : String × Option String) : Bool :=
  v.2.getD "" = "" || fields.contains v.1 || fields.any fun f => v.1 = start ++ f

/-- The settings of variables in lower case. -/
def ofVariables (environment : Assoc String String) (file : Assoc String (Option String)) :
    Except (List FieldFault) Settings :=
  let usual : Settings := {}
  let look := look environment file
  let source : Field.Source := fun f => (look f).map fun text => .str text
  let timeout := Field.read source "rpc_timeout" usual.timeout Field.positiveReal
  let others := (file.filter (!isKnown ·)).map fun v => FieldFault.mk v.1 .unknown
  match Limits.ofFields source, timeout, others with
  | .ok limits, .ok timeout, [] =>
    .ok { url := (look "rpc_url").getD usual.url
          timeout
          snapshot := (look "index_snapshot").map Location.normal
          level := (look "log_level").getD usual.level
          limits }
  | .ok _, timeout, others => .error (FieldFault.sorted ((Field.fault? timeout).toList ++ others))
  | .error fs, timeout, others => .error (FieldFault.sorted (fs ++ (Field.fault? timeout).toList ++ others))

/-- The settings of an environment and the text of a file. -/
def read (environment : List (String × String)) (file : Option String) : Except (List FieldFault) Settings :=
  ofVariables (lowered environment) (lowered (Variables.ofText environment (file.getD "")))

end Settings

end CellPurse
