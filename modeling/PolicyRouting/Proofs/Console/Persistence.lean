import Mathlib.Data.List.Chain
import PolicyRouting.Proofs.Console.Errands
import PolicyRouting.Proofs.Console.Tasks

/-!
# One register in memory and one file between commands

Every command of the program starts a process of its own: it reads the
policies from a file, works on them, and saves them.  The same commands may be
performed one after the other on a register that stays in memory.  Whatever the
commands are, the two cannot be told apart but by the stamps of the policies:
the outcomes are the same, and the file holds the policies of the register and
the rules they own.  A command that fails leaves all files as they were.

Three things are not the program's own.  A write may break off and leave a part
of the text; a text may not be printed, which ends the program after it saved;
and hosts are walked in no certain order, so that a replay may meet one or the
other of two owners of an address.  What is assumed of them is said by
`NeverBreaksOff` and `Completes`, by `TakesOutput`, and by `WalksAlike`.
-/

namespace PolicyRouting.Console

open Register (Durable)

/-- A command line, what it meets, and the stamps and the orders of hosts there are in memory. -/
structure Command where
  surroundings : Surroundings
  args : List String
  files : FileTree
  serial : UInt64
  moment : Timestamp
  order : Nat → HostOrder

namespace Command

def ran (command : Command) : Outcome × FileTree :=
  Script.runOn command.files (program command.surroundings command.args)

def outcome (command : Command) : Outcome := command.ran.1

def left (command : Command) : FileTree := command.ran.2

def errand (command : Command) : Outcome ⊕ Errand :=
  (Script.runOn command.files (Console.errand command.surroundings command.args)).1

/-- The command on a register in memory, which a failure leaves as it was. -/
def perform (command : Command) (register : Register) : Outcome × Register :=
  match command.errand with
  | .inl outcome => (outcome, register)
  | .inr errand =>
      match errand.task.perform command.serial command.moment command.order register with
      | .ok (answer, register) =>
          (.ofResult command.surroundings (.ok (answer.text errand.format)), register)
      | .error fault => (.ofResult command.surroundings (.error (.refused fault)), register)

def performAll (register : Register) (commands : List Command) : Register :=
  commands.foldl (fun register command => (command.perform register).2) register

/-- The command does not start the defaults anew, and its policies are in the file at the path. -/
structure Serves (command : Command) (path : String) : Prop where
  order : ∀ invocation, invocation? command.surroundings command.args = some invocation →
    invocation.order ≠ .configInit
  place : ∀ errand, command.errand = .inr errand → errand.path = path

/-- In memory, the hosts are walked as in the process so far as the command can tell. -/
def WalksAlike (command : Command) : Prop :=
  ∀ errand, command.errand = .inr errand →
    errand.task.WalksAlike command.surroundings.hostOrder command.order

/-- The command can save its policies, and no order of hosts sets it apart from memory. -/
structure Undisturbed (command : Command) (path : String) : Prop where
  completes : command.files.Completes
  room : command.files.lacks path → command.files.accepts path
  alike : command.WalksAlike

end Command

def Surroundings.TakesOutput (s : Surroundings) : Prop := ∀ text, s.stdout text = .whole

def FileTree.stored? (tree : FileTree) (path : String) : Option Snapshot :=
  match tree.read path with
  | .ok content => Snapshot.ofText? content
  | .error .missing | .error .notADirectory => some {}
  | .error _ => none

/-- The file holds the text of a register that is the same up to stamps, log and devices. -/
def Mirrors (tree : FileTree) (path : String) (register : Register) : Prop :=
  ∃ saved, Durable saved ∧ saved.bare = register.bare ∧
    (tree.read path = .ok (stateText saved) ∨ tree.lacks path ∧ saved = .empty)

section Mirrors

variable {tree tree' : FileTree} {path : String} {register : Register}

theorem Mirrors.congr (mirrors : Mirrors tree path register)
    (same : tree'.read path = tree.read path) : Mirrors tree' path register := by
  simpa only [Mirrors, FileTree.lacks, same] using mirrors

theorem mirrors_of_lacks (h : tree.lacks path) : Mirrors tree path .empty :=
  ⟨.empty, Register.durable_empty, rfl, .inr ⟨h, rfl⟩⟩

theorem Mirrors.load (mirrors : Mirrors tree path register) :
    ∃ loaded, Run.onFiles tree (loadRegister path) = (.ok loaded, tree) ∧ Durable loaded ∧
      loaded.bare = register.bare := by
  obtain ⟨saved, durable, same, text | ⟨lacks, rfl⟩⟩ := mirrors
  · obtain ⟨durable', same'⟩ := durable.restore_capture
    exact ⟨_, onFiles_loadRegister_of_text text durable.ofText?_capture, durable', same'.trans same⟩
  · exact ⟨_, onFiles_loadRegister_of_lacks lacks, durable, same⟩

theorem Mirrors.accepts (mirrors : Mirrors tree path register) (completes : tree.Completes)
    (first : tree.lacks path → tree.accepts path) : tree.accepts path := by
  obtain ⟨saved, -, -, text | ⟨lacks, -⟩⟩ := mirrors
  · exact FileTree.accepts_of_read completes text
  · exact first lacks

theorem Mirrors.stored? (mirrors : Mirrors tree path register) :
    (tree.stored? path).map Snapshot.unstamped = some (Snapshot.capture register).unstamped := by
  obtain ⟨saved, durable, same, text | ⟨lacks, rfl⟩⟩ := mirrors
  · rw [FileTree.stored?, text]
    simp only [stateText, durable.ofText?_capture, Option.map_some]
    rw [← Register.capture_bare, same, Register.capture_bare]
  · rw [← Register.capture_bare, ← same]
    rcases lacks with h | h <;> rw [FileTree.stored?, h] <;> rfl

end Mirrors

/-! ## One command -/

namespace Command

variable {command : Command} {path : String} {register : Register}

theorem ran_eq (serves : command.Serves path) :
    command.ran =
      match command.errand with
      | .inl outcome => (outcome, command.files)
      | .inr errand =>
          (Run.onFiles command.files (errand.run command.surroundings)).map
            (.ofResult command.surroundings) id := by
  have same := readsOnly_errand serves.order command.files
  rw [ran, program_eq, Script.runOn_bind, same, errand]
  rcases (Script.runOn command.files (Console.errand command.surroundings command.args)).1 with
    outcome | errand
  · rfl
  · simp only [Script.runOn_bind]
    rfl

theorem kept_left (serves : command.Serves path) (takes : command.surroundings.TakesOutput)
    (whole : command.files.NeverBreaksOff) (failed : command.outcome.code ≠ 0) :
    FileTree.Kept command.files command.left := by
  rw [outcome, ran_eq serves] at failed
  rw [left, ran_eq serves]
  cases h : command.errand with
  | inl outcome => exact .refl _
  | inr errand =>
      simp only [h] at failed ⊢
      rcases run : Run.onFiles command.files (errand.run command.surroundings) with ⟨_ | text, after⟩
      · exact Errand.kept_onFiles_run whole run
      · have answered : (Outcome.ofResult command.surroundings (.ok text)).code = 0 := by
          simp only [Outcome.ofResult, takes text]
        rw [run] at failed
        exact absurd answered failed

theorem mirrors_left (serves : command.Serves path) (undisturbed : command.Undisturbed path)
    (mirrors : Mirrors command.files path register) :
    command.outcome = (command.perform register).1 ∧
      Mirrors command.left path (command.perform register).2 := by
  rw [outcome, left, ran_eq serves, perform]
  cases h : command.errand with
  | inl outcome => exact ⟨rfl, mirrors⟩
  | inr errand =>
      obtain rfl := serves.place errand h
      obtain ⟨loaded, load, durable, same⟩ := mirrors.load
      simp only [Errand.onFiles_run load]
      rcases Task.perform_of_same same (undisturbed.alike errand h) 1 command.serial
          command.surroundings.now command.moment with
        ⟨fault, refused, refused'⟩ | ⟨answer, after, after', performed, performed', bare⟩
      · simp only [refused, refused']
        exact ⟨rfl, mirrors⟩
      · simp only [performed, performed']
        cases saves : errand.task.saves with
        | false =>
            obtain rfl := Task.perform_of_not_saves saves performed'
            exact ⟨rfl, mirrors⟩
        | true =>
            have saved := mirrors.accepts undisturbed.completes undisturbed.room (stateText after)
            simp only [if_true, onFiles_saveRegister saved]
            exact ⟨rfl, after, Task.durable_perform durable performed, bare,
              .inl (FileTree.read_save saved)⟩

theorem completes_left (serves : command.Serves path) (completes : command.files.Completes) :
    command.left.Completes := by
  intro content
  rw [left, ran_eq serves]
  cases h : command.errand with
  | inl outcome => exact completes content
  | inr errand =>
      show (Run.onFiles command.files (errand.run command.surroundings)).2.medium content = _
      rw [Errand.medium_onFiles_run]
      exact completes content

theorem accepts_left (serves : command.Serves path) (completes : command.files.Completes)
    (accepts : command.files.accepts path) : command.left.accepts path := by
  rw [left, ran_eq serves]
  cases h : command.errand with
  | inl outcome => exact accepts
  | inr errand =>
      obtain rfl := serves.place errand h
      exact Errand.accepts_onFiles_run completes accepts

def States (surroundings : Surroundings) (path : String) (args : List String) : Prop :=
  ∃ invocation, invocation? surroundings args = some invocation ∧
    invocation.state = some path ∧ invocation.order ≠ .configInit

theorem serves_of_states (states : States command.surroundings path command.args) :
    command.Serves path := by
  obtain ⟨invocation, read, state, order⟩ := states
  refine ⟨fun other read' => ?_, fun found h => ?_⟩
  · obtain rfl : invocation = other := Option.some.inj (read.symm.trans read')
    exact order
  · exact Invocation.path_of_errand state (onFiles_errand_of_invocation read h)

end Command

/-! ## A history of commands -/

theorem mirrors_performAll {path : String} {before : List Command} {command : Command}
    {register : Register} (serves : ∀ earlier ∈ before, earlier.Serves path)
    (undisturbed : ∀ earlier ∈ before, earlier.Undisturbed path)
    (linked : (before ++ [command]).IsChain fun earlier next =>
      next.files.read path = earlier.left.read path)
    (start : ∀ first ∈ (before ++ [command]).head?, Mirrors first.files path register) :
    Mirrors command.files path (Command.performAll register before) := by
  -- each command hands the mirrored register on to the next one, by the file it leaves
  induction before generalizing register with
  | nil => exact start command rfl
  | cons first before ih =>
      have step := Command.mirrors_left (serves first List.mem_cons_self)
        (undisturbed first List.mem_cons_self) (start first rfl)
      obtain ⟨next, linked⟩ := List.isChain_cons.1 linked
      exact ih (fun earlier mem => serves earlier (List.mem_cons_of_mem _ mem))
        (fun earlier mem => undisturbed earlier (List.mem_cons_of_mem _ mem)) linked
        fun second mem => step.2.congr (next second mem)

/--
The commands of a history start where no file is, and each finds at the path what the one before
it left.  Where writes complete or are refused and what is printed is taken, a command that fails
changes no text.  Where writes complete, the first file can be made, and either the hosts are walked
in the same order or no address of a replay has two owners, each command has the outcome that it has
on one register in memory, and leaves the policies and rules of that register in the file, up to the
stamps.
-/
theorem command_agrees_with_register {path : String} {before : List Command} {command : Command}
    (serves : ∀ run ∈ before ++ [command], run.Serves path)
    (start : ∀ first ∈ (before ++ [command]).head?, first.files.lacks path)
    (linked : (before ++ [command]).IsChain fun earlier next =>
      next.files.read path = earlier.left.read path) :
    let result := command.perform (Command.performAll .empty before)
    (command.surroundings.TakesOutput → command.files.NeverBreaksOff →
        command.outcome.code ≠ 0 → FileTree.Kept command.files command.left) ∧
      ((∀ run ∈ before ++ [command], run.Undisturbed path) →
        command.outcome = result.1 ∧
          (command.left.stored? path).map Snapshot.unstamped =
            some (Snapshot.capture result.2).unstamped) := by
  intro result
  have serves_command : command.Serves path := serves command (by simp)
  refine ⟨Command.kept_left serves_command, fun undisturbed => ?_⟩
  have mirrors : Mirrors command.files path (Command.performAll .empty before) :=
    mirrors_performAll (fun earlier mem => serves earlier (List.mem_append_left _ mem))
      (fun earlier mem => undisturbed earlier (List.mem_append_left _ mem)) linked
      fun first mem => mirrors_of_lacks (start first mem)
  obtain ⟨outcome, mirrors⟩ :=
    Command.mirrors_left serves_command (undisturbed command (by simp)) mirrors
  exact ⟨outcome, mirrors.stored?⟩

/-! ## A session -/

def session (surroundings : Surroundings) (files : FileTree) (serial : UInt64) :
    List (List String) → List Command
  | [] => []
  | args :: rest =>
      let command : Command :=
        { surroundings, args, files, serial
          moment := .ofEpochNanos serial.toNat
          order := surroundings.hostOrder }
      command :: session surroundings command.left (serial + 1) rest

section Session

variable {path : String} {surroundings : Surroundings} {files : FileTree} {serial : UInt64}
  {lines : List (List String)}

theorem files_of_mem_head? : ∀ first ∈ (session surroundings files serial lines).head?,
    first.files = files := by
  cases lines with
  | nil => simp [session]
  | cons args rest => simp [session]

theorem linked_session : (session surroundings files serial lines).IsChain fun earlier next =>
    next.files.read path = earlier.left.read path := by
  induction lines generalizing files serial with
  | nil => exact .nil
  | cons args rest ih =>
      exact List.isChain_cons.2 ⟨fun next mem => by rw [files_of_mem_head? next mem], ih⟩

theorem serves_session (states : ∀ args ∈ lines, Command.States surroundings path args) :
    ∀ command ∈ session surroundings files serial lines, command.Serves path := by
  induction lines generalizing files serial with
  | nil => exact fun _ mem => absurd mem List.not_mem_nil
  | cons args rest ih =>
      intro command mem
      rcases List.mem_cons.1 mem with rfl | mem
      · exact Command.serves_of_states (states args List.mem_cons_self)
      · exact ih (fun args mem => states args (List.mem_cons_of_mem _ mem)) command mem

theorem undisturbed_session (states : ∀ args ∈ lines, Command.States surroundings path args)
    (completes : files.Completes) (accepts : files.accepts path) :
    ∀ command ∈ session surroundings files serial lines, command.Undisturbed path := by
  induction lines generalizing files serial with
  | nil => exact fun _ mem => absurd mem List.not_mem_nil
  | cons args rest ih =>
      intro command mem
      rcases List.mem_cons.1 mem with rfl | mem
      · exact ⟨completes, fun _ => accepts, fun _ _ => .inl rfl⟩
      · let first : Command :=
          { surroundings, args, files, serial
            moment := .ofEpochNanos serial.toNat
            order := surroundings.hostOrder }
        have serves : first.Serves path := Command.serves_of_states (states args List.mem_cons_self)
        refine ih (fun args mem => states args (List.mem_cons_of_mem _ mem)) ?_ ?_ command mem
        · exact first.completes_left serves completes
        · exact first.accepts_left serves completes accepts

end Session

def lineScenario : Json :=
  .record
    [("regions", lineRegions.toJson),
     ("links", .array
       [Link.toJson ⟨⟨"a", 2⟩, ⟨"b", 1⟩⟩, Link.toJson ⟨⟨"b", 2⟩, ⟨"c", 1⟩⟩]),
     ("hosts", .array [westHost.toJson, eastHost.toJson]),
     ("packets", .array
       [.record
         [("receiver", .text "a/1"), ("frame", .text (Text.hexOfBytes eastboundPacket))]])]

def workFiles (scenario : String) : FileTree where
  working := ["work"]
  nodes := [(["work"], .directory), (["work", "line.json"], .text scenario)]

def workSurroundings : Surroundings where
  home := some "/work"
  environment := fun _ => none
  now := .ofEpochNanos 0

/-- A policy is made, gets rules in a replay, and is removed; two other commands are refused. -/
def lineArgs : List (List String) :=
  [["policy", "create", "gold", "--region", "west", "--dst-region", "east", "--action", "inter",
    "--via", "b/1"],
   ["policy", "create", "tin", "--region", "west", "--priority", "high"],
   ["replay", "line.json"], ["policy", "remove", "7"], ["policy", "list"],
   ["policy", "remove", "0"]].map fun args => args ++ ["--state", "policies.json"]

def lineSession : List Command :=
  session workSurroundings (workFiles lineScenario.toText) 5 lineArgs

theorem states_lineArgs :
    ∀ args ∈ lineArgs, Command.States workSurroundings "policies.json" args := by
  have all : lineArgs.all fun args => (invocation? workSurroundings args).any fun invocation =>
      invocation.state = some "policies.json" ∧ invocation.order ≠ .configInit := by
    decide +kernel
  intro args mem
  simpa [Command.States, Option.any_eq_true] using List.all_eq_true.1 all args mem

section Work

variable (scenario : String)

theorem names_policies : FileTree.names "policies.json" = [] ++ ["policies.json"] := by
  decide +kernel

theorem start_workFiles : (workFiles scenario).start "policies.json" = ["work"] := by
  have relative : FileTree.isRooted "policies.json" = false := by decide +kernel
  rw [FileTree.start, relative]
  rfl

theorem isDirectory_workFiles : (workFiles scenario).isDirectory ["work"] = true := rfl

theorem node?_workFiles : (workFiles scenario).node? ["work", "policies.json"] = none := rfl

theorem lacks_workFiles : (workFiles scenario).lacks "policies.json" := by
  refine .inl ?_
  simp [FileTree.read, FileTree.locate, FileTree.walk, FileTree.under, names_policies,
    start_workFiles, isDirectory_workFiles, node?_workFiles, bind, Except.bind]

theorem completes_workFiles : (workFiles scenario).Completes := fun _ => rfl

theorem accepts_workFiles : (workFiles scenario).accepts "policies.json" := by
  intro content
  have made : (workFiles scenario).makeParents "policies.json" = .ok (workFiles scenario) := by
    rw [FileTree.makeParents, FileTree.parentNames_of_named names_policies (by decide) (by decide),
      start_workFiles, FileTree.makeAlong, if_pos (isDirectory_workFiles scenario)]
  have free : (workFiles scenario).isDirectory ["work", "policies.json"] = false := rfl
  have found : (workFiles scenario).target "policies.json" = .ok ["work", "policies.json"] := by
    rw [FileTree.target_of_named (by decide) names_policies (by decide), start_workFiles]
    simp [FileTree.walk, FileTree.under, isDirectory_workFiles, free, Except.bind]
  rw [FileTree.save_of_complete made found (completes_workFiles scenario content)]

end Work

theorem lineSession_ne_nil : lineSession ≠ [] := List.cons_ne_nil _ _

def lineHistory : List Command := lineSession.dropLast

def lineRemoval : Command := lineSession.getLast lineSession_ne_nil

theorem lineHistory_concat : lineHistory ++ [lineRemoval] = lineSession :=
  List.dropLast_concat_getLast _

def hastyRemoval : Command where
  surroundings := workSurroundings
  args := ["policy", "remove", "7", "--state", "policies.json"]
  files := workFiles lineScenario.toText
  serial := 5
  moment := .ofEpochNanos 5
  order := fun _ => .byId

theorem states_hastyRemoval :
    Command.States workSurroundings "policies.json" hastyRemoval.args :=
  states_lineArgs _ (by simp [lineArgs, hastyRemoval])

theorem lineRemoval_agrees_with_register :
    (∀ run ∈ lineHistory ++ [lineRemoval], run.Serves "policies.json") ∧
      (∀ first ∈ (lineHistory ++ [lineRemoval]).head?, first.files.lacks "policies.json") ∧
      (lineHistory ++ [lineRemoval]).IsChain (fun earlier next =>
        next.files.read "policies.json" = earlier.left.read "policies.json") ∧
      (∀ run ∈ lineHistory ++ [lineRemoval], run.Undisturbed "policies.json") ∧
      lineRemoval.outcome =
        (lineRemoval.perform (Command.performAll .empty lineHistory)).1 ∧
      (lineRemoval.left.stored? "policies.json").map Snapshot.unstamped =
        some (Snapshot.capture
          (lineRemoval.perform (Command.performAll .empty lineHistory)).2).unstamped ∧
      hastyRemoval.outcome.code ≠ 0 ∧
      FileTree.Kept hastyRemoval.files hastyRemoval.left := by
  have serves : ∀ run ∈ lineHistory ++ [lineRemoval], run.Serves "policies.json" := by
    rw [lineHistory_concat]
    exact serves_session states_lineArgs
  have start : ∀ first ∈ (lineHistory ++ [lineRemoval]).head?,
      first.files.lacks "policies.json" := by
    rw [lineHistory_concat]
    intro first mem
    rw [files_of_mem_head? first mem]
    exact lacks_workFiles _
  have linked : (lineHistory ++ [lineRemoval]).IsChain fun earlier next =>
      next.files.read "policies.json" = earlier.left.read "policies.json" := by
    rw [lineHistory_concat]
    exact linked_session
  have undisturbed : ∀ run ∈ lineHistory ++ [lineRemoval], run.Undisturbed "policies.json" := by
    rw [lineHistory_concat]
    exact undisturbed_session states_lineArgs (completes_workFiles _) (accepts_workFiles _)
  have agree := command_agrees_with_register serves start linked
  have hasty : ∀ run ∈ [] ++ [hastyRemoval], run.Serves "policies.json" := by
    rintro run mem
    obtain rfl : run = hastyRemoval := by simpa using mem
    exact Command.serves_of_states states_hastyRemoval
  have hasty_start : ∀ first ∈ ([] ++ [hastyRemoval]).head?, first.files.lacks "policies.json" := by
    rintro first mem
    obtain rfl : hastyRemoval = first := by simpa using mem
    exact lacks_workFiles _
  have failed : hastyRemoval.outcome.code ≠ 0 := by decide +kernel
  have kept := (command_agrees_with_register hasty hasty_start (List.isChain_singleton _)).1
    (fun _ => rfl) (fun content length cause broken => by cases broken) failed
  exact ⟨serves, start, linked, undisturbed, (agree.2 undisturbed).1, (agree.2 undisturbed).2,
    failed, kept⟩

end PolicyRouting.Console
