import PolicyRouting.Console.Answer
import PolicyRouting.Console.Defaults
import PolicyRouting.Console.Help
import PolicyRouting.Console.Script

/-!
# One run of the program

Each run reads the command line, then the defaults, then the files that the
command needs, and saves the policies if the command may have changed them.
What is printed and with which code the run ends is its outcome.
-/

namespace PolicyRouting.Console

inductive Printed where
  | whole
  /-- A part of it is taken; the program panics and says so. -/
  | cutOff (taken complaint : String)
  deriving DecidableEq, Repr

structure Surroundings where
  home : Option String
  environment : String → Option String
  now : Timestamp
  hostOrder : Nat → HostOrder := fun _ => .byId
  stdout : String → Printed := fun _ => .whole

structure Outcome where
  code : Nat
  out : String := ""
  err : String := ""
  deriving DecidableEq, Repr

abbrev Run := ExceptT Trouble Script

def inDirectory (directory name : String) : String :=
  if directory.toList.getLast? = some '/' then directory ++ name else directory ++ "/" ++ name

def baseDirectory (home : String) : String := inDirectory home ".osdf"

def defaultsPath (home : String) : String := inDirectory (baseDirectory home) "config.toml"

/-- The file of the policies: as typed, as in the defaults, or in the home directory. -/
def statePath (home : String) (typed : Option String) (defaults : Defaults) : String :=
  ((typed <|> defaults.stateFile).getD (inDirectory (baseDirectory home) "state.json"))

def readPresent (path : String) : Run (Option String) := do
  match ← Script.readFile path with
  | .ok content => return some content
  | .error .missing | .error .notADirectory => return none
  | .error cause => throw (.unreadable path cause)

def readRequired (path : String) : Run String := do
  match ← Script.readFile path with
  | .ok content => return content
  | .error cause => throw (.unreadable path cause)

def loadDefaults (home : String) : Run Defaults := do
  match ← readPresent (defaultsPath home) with
  | none => return {}
  | some content =>
      match Defaults.ofText content with
      | .ok defaults => return defaults
      | .error message => throw (.malformedDefaults message)

def loadRegister (path : String) : Run Register := do
  match ← readPresent path with
  | none => return .empty
  | some content =>
      match Snapshot.ofText? content with
      | some snapshot => return snapshot.restore .empty
      | none => throw (.malformed path)

def stateText (register : Register) : String := (Snapshot.capture register).toJson.toIndentedText

def saveRegister (path : String) (register : Register) : Run Unit := do
  match ← Script.saveFile path (stateText register) with
  | .ok () => return ()
  | .error (.directories cause) => throw (.noDirectory cause)
  | .error (.content cause) => throw (.unwritable path cause)

def accepted {α : Type} (result : Except Fault α) : Run α :=
  match result with
  | .ok a => return a
  | .error cause => throw (.refused cause)

/-- The settings in the named file, in the scenario, in the file of the defaults, or none. -/
def chooseSettings (named : Option String) (scenario : Scenario) (defaults : Defaults) :
    Run Settings := do
  match named, scenario.settings, defaults.engineSettings with
  | some path, _, _ => accepted (Settings.ofFile (← Script.readFile path))
  | none, some settings, _ => return settings
  | none, none, some path => return Settings.ofFileOrDefault (← Script.readFile path)
  | none, none, none => return {}

def prepareReplay (path : String) (named : Option String) (defaults : Defaults) : Run Replay := do
  let content ← readRequired path
  let some scenario := Scenario.ofText? content | throw (.malformed path)
  let settings ← chooseSettings named scenario defaults
  let settings ← accepted settings.check
  let packets ← (scenario.packets.mapM CapturedPacket.decode : Except Trouble _)
  return {
    settings, packets
    regions := scenario.regions
    graph := scenario.graph
    hosts := scenario.hosts }

def runTask (s : Surroundings) (path : String) (task : Task) : Run Answer := do
  let register ← loadRegister path
  let (answer, register) ← accepted (task.perform 1 s.now s.hostOrder register)
  if task.saves then saveRegister path register
  return answer

def initDefaults (home path : String) : Run String := do
  match ← Script.saveFile (defaultsPath home) { stateFile := some path : Defaults }.toText with
  | .ok () => return "Configuration initialized at " ++ defaultsPath home ++ "\n"
  | .error (.directories cause) | .error (.content cause) => throw (.defaultsUnwritable cause)

def defaultsText (defaults : Defaults) (path : String) : String :=
  let shown := fun (value : Option String) => value.getD "(not set)"
  "state_file: " ++ shown defaults.stateFile ++ "\n"
    ++ "engine_config: " ++ shown defaults.engineSettings ++ "\n"
    ++ "default_format: " ++ shown (defaults.format.map Format.name) ++ "\n"
    ++ "effective state: " ++ path ++ "\n"

def runInvocation (s : Surroundings) (invocation : Invocation) : Run String := do
  let some home := s.home | throw .homeless
  let defaults ← loadDefaults home
  let path := statePath home invocation.state defaults
  let format := ((invocation.format <|> defaults.format).getD .table)
  let answered := fun (task : Task) => do return (← runTask s path task).text format
  match invocation.order with
  | .create request => answered (.create request)
  | .list => answered .list
  | .get id => answered (.get id)
  | .remove id => answered (.remove id)
  | .replay scenario settings => answered (.replay (← prepareReplay scenario settings defaults))
  | .configInit => initDefaults home path
  | .configShow => return defaultsText defaults path

def misuse : Outcome where
  code := 2
  err := "error: the command line is not understood\n\nFor more information, try '--help'.\n"

/-- Code 101 says that the program panicked. -/
def Outcome.ofResult (s : Surroundings) : Except Trouble String → Outcome
  | .ok out =>
      match s.stdout out with
      | .whole => { code := 0, out }
      | .cutOff taken complaint => { code := 101, out := taken, err := complaint }
  | .error trouble => { code := 1, err := "Error: " ++ trouble.message ++ "\n" }

def program (s : Surroundings) (args : List String) : Script Outcome := do
  match grammar.read args with
  | .misuse => return misuse
  | .version => return { code := 0, out := grammar.program.name ++ " " ++ grammar.version ++ "\n" }
  | .help path form => return { code := 0, out := grammar.helpPage s.environment path form }
  | .typed typed =>
      match typed.invocation? s.environment with
      | none => return misuse
      | some invocation => return .ofResult s (← (runInvocation s invocation).run)

end PolicyRouting.Console
