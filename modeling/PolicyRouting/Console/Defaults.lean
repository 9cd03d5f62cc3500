import PolicyRouting.Console.Invocation
import PolicyRouting.Toml.Reader

/-!
# The defaults of the program

A file in the home directory may say where the policies are kept, where the
settings of the engine are, and in which format answers are written.  Other
names in the file are skipped.
-/

namespace PolicyRouting.Console

structure Defaults where
  stateFile : Option String := none
  engineSettings : Option String := none
  format : Option Format := none
  deriving DecidableEq, Repr, Inhabited

namespace Defaults

def described : Option Toml.Value → String
  | some (.string s) => "string \"" ++ s ++ "\""
  | some (.integer n) => "integer `" ++ toString n ++ "`"
  | some (.float token) => "floating point `" ++ token ++ "`"
  | some (.boolean b) => "boolean `" ++ toString b ++ "`"
  | some (.array _) => "sequence"
  | some .datetime | some (.table _) | none => "map"

def pathOfValue : Option Toml.Value → Except String String
  | some (.string s) => .ok s
  | value => .error ("invalid type: " ++ described value ++ ", expected path string")

def formatOfValue : Option Toml.Value → Except String Format
  | some (.string s) =>
      match Format.ofName? s with
      | some format => .ok format
      | none =>
          .error ("unknown variant `" ++ s ++ "`, expected one of "
            ++ Text.joined ", " (Format.all.map fun format => "`" ++ format.name ++ "`"))
  | _ => .error "wanted string or table"

/-- The value of an item for its first name; a longer name makes it a table. -/
def valueAt (item : Toml.Item) : Option Toml.Value :=
  if item.name.length = 1 then item.value else none

def withItem (defaults : Defaults) (item : Toml.Item) : Except Toml.Fault Defaults :=
  let located := fun {α : Type} (result : Except String α) =>
    result.mapError fun message => (⟨message, item.start, item.behind⟩ : Toml.Fault)
  match item.name.head? with
  | some "state_file" => do
      return { defaults with stateFile := some (← located (pathOfValue (valueAt item))) }
  | some "engine_config" => do
      return { defaults with engineSettings := some (← located (pathOfValue (valueAt item))) }
  | some "default_format" => do
      return { defaults with format := some (← located (formatOfValue (valueAt item))) }
  | _ => .ok defaults

def ofText (s : String) : Except String Defaults :=
  ((do (← Toml.itemsOfText s).foldlM withItem {}) : Except Toml.Fault Defaults).mapError
    fun fault => fault.shownIn s

def toText (defaults : Defaults) : String :=
  let assigned := fun (name : String) (value : Option String) =>
    (value.map (Toml.assignmentText name)).getD ""
  assigned "state_file" defaults.stateFile ++ assigned "engine_config" defaults.engineSettings
    ++ assigned "default_format" (defaults.format.map Format.name)

end Defaults

end PolicyRouting.Console
