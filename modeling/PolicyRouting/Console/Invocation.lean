import PolicyRouting.Console.Grammar
import PolicyRouting.Policy.Request

/-!
# The commands of the program

The grammar of the command line, and the invocation that a line states: what
to do, in which format to answer, and where the policies are kept.
-/

namespace PolicyRouting.Console

inductive Format where
  | table | json | yaml
  deriving DecidableEq, Repr, Inhabited

namespace Format

def all : List Format := [table, json, yaml]

def name : Format → String
  | table => "table"
  | json => "json"
  | yaml => "yaml"

def ofName? (s : String) : Option Format := all.find? (·.name = s)

end Format

inductive Order where
  | create (request : Request)
  | list
  | get (id : String)
  | remove (id : String)
  | replay (scenario : String) (settings : Option String)
  | configInit
  | configShow
  deriving DecidableEq, Repr

structure Invocation where
  order : Order
  format : Option Format
  state : Option String
  deriving DecidableEq, Repr

def formatOption : OptionForm where
  long := "format"
  short := some 'f'
  help := "Output format"
  kind := .choice (Format.all.map Format.name)

def stateOption : OptionForm where
  long := "state"
  help := "Policy state file"
  kind := .path
  standIn := some "OSDF_STATE"

def createForm : CommandForm :=
  .leaf "create" "Create a policy" [⟨"PROFILE", "Traffic profile name", .text⟩]
    [{ long := "application", short := some 'a', help := "Application type" },
     { long := "priority", short := some 'p', help := "Priority" },
     { long := "via", help := "Connect points the path must visit (dev/port,dev/port)" },
     { long := "psa", help := "Path selection algorithm" },
     { long := "region", help := "Region", isRequired := true },
     { long := "dst-region", help := "Destination region for inter-region policies" },
     { long := "action", help := "intra or inter" },
     { long := "src-hosts", help := "Source host ids (MAC/VLAN,...)" },
     { long := "dst-hosts", help := "Destination host ids (MAC/VLAN,...)" }]

def policyForm : CommandForm :=
  .branch "policy" "Manage policies"
    [createForm,
     .leaf "list" "List policies" [] [],
     .leaf "get" "Get policy details" [⟨"ID", "", .text⟩] [],
     .leaf "remove" "Remove a policy and withdraw its rules" [⟨"ID", "", .text⟩] []]

def replayForm : CommandForm :=
  .leaf "replay" "Run captured packets through the engine"
    [⟨"SCENARIO", "Scenario file (JSON)", .path⟩]
    [{ long := "engine-config", help := "Engine configuration (JSON), overrides the config file",
       kind := .path }]

def configForm : CommandForm :=
  .branch "config" "Configure CLI"
    [.leaf "init" "Initialize configuration" [] [], .leaf "show" "Show configuration" [] []]

def grammar : Grammar where
  program :=
    .branch "osdf" "OSDF reactive routing command line interface"
      [policyForm, replayForm, configForm]
  version := "0.1.0"
  shared := [formatOption, stateOption]

namespace Typed

def request? (typed : Typed) : Option Request := do
  let profileName ← typed.positional? 0
  let region ← typed.value? "region"
  return {
    profileName
    application := typed.value? "application"
    priority := typed.value? "priority"
    partialPath := typed.value? "via"
    preference := typed.value? "psa"
    region
    dstRegion := typed.value? "dst-region"
    action := typed.value? "action"
    srcHosts := typed.value? "src-hosts"
    dstHosts := typed.value? "dst-hosts" }

def order? (typed : Typed) : Option Order :=
  match typed.path.drop 1 with
  | ["policy", "create"] => typed.request?.map .create
  | ["policy", "list"] => some .list
  | ["policy", "get"] => (typed.positional? 0).map .get
  | ["policy", "remove"] => (typed.positional? 0).map .remove
  | ["replay"] => (typed.positional? 0).map fun path => .replay path (typed.value? "engine-config")
  | ["config", "init"] => some .configInit
  | ["config", "show"] => some .configShow
  | _ => none

/-- The environment stands in for a path that was not typed, and has to be a path then. -/
def invocation? (typed : Typed) (environment : String → Option String) : Option Invocation := do
  let order ← typed.order?
  let state ← match typed.value? stateOption.long, stateOption.standIn.bind environment with
    | some path, _ => some (some path)
    | none, some path => if stateOption.kind.accepts path then some (some path) else none
    | none, none => some none
  return { order, format := (typed.value? formatOption.long).bind Format.ofName?, state }

end Typed

end PolicyRouting.Console
