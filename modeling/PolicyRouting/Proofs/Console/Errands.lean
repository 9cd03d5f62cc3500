import PolicyRouting.Console.Session
import PolicyRouting.Proofs.Console.Files

/-!
# What a command is sent for

Before a command looks at the policies it reads its arguments, the defaults and
the files of a replay.  That leaves it with an errand, a task for the policies
at a path, or it ends without one: it was misunderstood, a file was bad, or it
was about the defaults.  The program runs its errand, and nothing else.
-/

namespace PolicyRouting.Console

namespace Script

theorem andThen_assoc {α β γ : Type} (script : Script α) (f : α → Script β) (g : β → Script γ) :
    (script.andThen f).andThen g = script.andThen fun a => (f a).andThen g := by
  induction script with
  | done => rfl
  | read path next ih => exact congrArg (Script.read path) (funext ih)
  | save path content next ih => exact congrArg (Script.save path content) (funext ih)

theorem andThen_done {α : Type} (script : Script α) : script.andThen .done = script := by
  induction script with
  | done => rfl
  | read path next ih => exact congrArg (Script.read path) (funext ih)
  | save path content next ih => exact congrArg (Script.save path content) (funext ih)

instance : LawfulMonad Script :=
  LawfulMonad.mk' Script andThen_done (fun _ _ => rfl) andThen_assoc

def ReadsOnly {α : Type} (script : Script α) : Prop := ∀ tree, (runOn tree script).2 = tree

theorem readsOnly_pure {α : Type} (a : α) : ReadsOnly (pure a) := fun _ => rfl

theorem ReadsOnly.bind {α β : Type} {script : Script α} {next : α → Script β}
    (first : ReadsOnly script) (others : ∀ a, ReadsOnly (next a)) :
    ReadsOnly (script >>= next) := fun tree => by
  rw [runOn_bind, others, first]

end Script

/-! ## Runs over files -/

namespace Run

variable {α β : Type} {tree : FileTree}

def onFiles (tree : FileTree) (run : Run α) : Except Trouble α × FileTree :=
  Script.runOn tree run.run

@[simp] theorem onFiles_pure (a : α) : onFiles tree (pure a) = (.ok a, tree) := rfl

@[simp] theorem onFiles_throw (trouble : Trouble) :
    onFiles tree (throw trouble : Run α) = (.error trouble, tree) := rfl

@[simp] theorem onFiles_lift (script : Script α) :
    onFiles tree (liftM script : Run α) =
      (.ok (Script.runOn tree script).1, (Script.runOn tree script).2) := by
  show Script.runOn tree (script >>= fun a => pure (Except.ok a)) = _
  rw [Script.runOn_bind]
  rfl

theorem onFiles_bind (run : Run α) (next : α → Run β) :
    onFiles tree (run >>= next) =
      match onFiles tree run with
      | (.ok a, tree) => onFiles tree (next a)
      | (.error trouble, tree) => (.error trouble, tree) := by
  show Script.runOn tree (run.run >>= ExceptT.bindCont next) = _
  rw [Script.runOn_bind]
  show _ = match Script.runOn tree run.run with
    | (.ok a, tree) => onFiles tree (next a)
    | (.error trouble, tree) => (.error trouble, tree)
  rcases Script.runOn tree run.run with ⟨_ | a, after⟩ <;> rfl

theorem exists_of_bind {run : Run α} {next : α → Run β} {b : β}
    (h : (onFiles tree (run >>= next)).1 = .ok b) :
    ∃ a after, onFiles tree run = (.ok a, after) ∧ (onFiles after (next a)).1 = .ok b := by
  rw [onFiles_bind] at h
  rcases first : onFiles tree run with ⟨_ | a, after⟩
  · simp [first] at h
  · exact ⟨a, after, rfl, by simpa only [first] using h⟩

def ReadsOnly (run : Run α) : Prop := ∀ tree, (onFiles tree run).2 = tree

theorem readsOnly_pure (a : α) : ReadsOnly (pure a) := fun _ => rfl

theorem readsOnly_throw (trouble : Trouble) : ReadsOnly (throw trouble : Run α) := fun _ => rfl

theorem readsOnly_given (result : Except Trouble α) : ReadsOnly (liftM result : Run α) := by
  cases result <;> exact fun _ => rfl

theorem readsOnly_readFile (path : String) : ReadsOnly (liftM (Script.readFile path)) :=
  fun _ => rfl

theorem ReadsOnly.bind {run : Run α} {next : α → Run β} (first : ReadsOnly run)
    (others : ∀ a, ReadsOnly (next a)) : ReadsOnly (run >>= next) := by
  intro tree
  rw [onFiles_bind]
  have same := first tree
  rcases h : onFiles tree run with ⟨_ | a, after⟩
  · simpa [h] using same
  · obtain rfl : after = tree := by simpa [h] using same
    exact others a after

end Run

section Reading

open Run (ReadsOnly readsOnly_pure readsOnly_throw readsOnly_given readsOnly_readFile)

theorem readsOnly_readPresent (path : String) : ReadsOnly (readPresent path) := by
  refine (readsOnly_readFile path).bind fun answer => ?_
  split
  · exact readsOnly_pure _
  · exact readsOnly_pure _
  · exact readsOnly_pure _
  · exact readsOnly_throw _

theorem readsOnly_readRequired (path : String) : ReadsOnly (readRequired path) := by
  refine (readsOnly_readFile path).bind fun answer => ?_
  split
  · exact readsOnly_pure _
  · exact readsOnly_throw _

theorem readsOnly_loadDefaults (home : String) : ReadsOnly (loadDefaults home) := by
  refine (readsOnly_readPresent _).bind fun found => ?_
  split
  · exact readsOnly_pure _
  · split
    · exact readsOnly_pure _
    · exact readsOnly_throw _

theorem readsOnly_loadRegister (path : String) : ReadsOnly (loadRegister path) := by
  refine (readsOnly_readPresent _).bind fun found => ?_
  split
  · exact readsOnly_pure _
  · split
    · exact readsOnly_pure _
    · exact readsOnly_throw _

theorem readsOnly_accepted {α : Type} (result : Except Fault α) : ReadsOnly (accepted result) := by
  unfold accepted
  split
  · exact readsOnly_pure _
  · exact readsOnly_throw _

theorem readsOnly_chooseSettings (named : Option String) (scenario : Scenario)
    (defaults : Defaults) : ReadsOnly (chooseSettings named scenario defaults) := by
  unfold chooseSettings
  split
  · exact (readsOnly_readFile _).bind fun _ => readsOnly_accepted _
  · exact readsOnly_pure _
  · exact (readsOnly_readFile _).bind fun _ => readsOnly_pure _
  · exact readsOnly_pure _

theorem readsOnly_prepareReplay (path : String) (named : Option String) (defaults : Defaults) :
    ReadsOnly (prepareReplay path named defaults) := by
  refine (readsOnly_readRequired path).bind fun content => ?_
  split
  · refine (readsOnly_chooseSettings _ _ _).bind fun settings => ?_
    refine (readsOnly_accepted _).bind fun settings => ?_
    exact (readsOnly_given _).bind fun packets => readsOnly_pure _
  · exact readsOnly_throw _

end Reading

/-! ## Errands -/

structure Errand where
  path : String
  format : Format
  task : Task

/-- What an invocation prints without looking at the policies, or its errand. -/
def Invocation.errand (s : Surroundings) (invocation : Invocation) : Run (String ⊕ Errand) := do
  let some home := s.home | throw .homeless
  let defaults ← loadDefaults home
  let path := statePath home invocation.state defaults
  let format := ((invocation.format <|> defaults.format).getD .table)
  match invocation.order with
  | .create request => return .inr ⟨path, format, .create request⟩
  | .list => return .inr ⟨path, format, .list⟩
  | .get id => return .inr ⟨path, format, .get id⟩
  | .remove id => return .inr ⟨path, format, .remove id⟩
  | .replay scenario settings =>
      return .inr ⟨path, format, .replay (← prepareReplay scenario settings defaults)⟩
  | .configInit => return .inl (← initDefaults home path)
  | .configShow => return .inl (defaultsText defaults path)

theorem Invocation.path_of_errand {s : Surroundings} {invocation : Invocation} {tree : FileTree}
    {typed : String} {errand : Errand} (state : invocation.state = some typed)
    (h : (Run.onFiles tree (invocation.errand s)).1 = .ok (.inr errand)) : errand.path = typed := by
  obtain ⟨order, format, _⟩ := invocation
  obtain rfl := state
  unfold Invocation.errand at h
  split at h
  · rename_i home _
    obtain ⟨defaults, after, -, h⟩ := Run.exists_of_bind h
    cases order with
    | create _ | list | get _ | remove _ => exact Sum.inr.inj (Except.ok.inj h) ▸ rfl
    | replay scenario settings =>
        obtain ⟨prepared, _, -, h⟩ := Run.exists_of_bind h
        exact Sum.inr.inj (Except.ok.inj h) ▸ rfl
    | configInit =>
        obtain ⟨text, _, -, h⟩ := Run.exists_of_bind h
        exact absurd (Except.ok.inj h) Sum.inl_ne_inr
    | configShow => exact absurd (Except.ok.inj h) Sum.inl_ne_inr
  · exact nomatch h

def Errand.run (s : Surroundings) (errand : Errand) : Run String := do
  return (← runTask s errand.path errand.task).text errand.format

theorem runInvocation_eq (s : Surroundings) (invocation : Invocation) :
    runInvocation s invocation = (do
      match ← invocation.errand s with
      | .inl text => return text
      | .inr errand => errand.run s) := by
  obtain ⟨order, format, state⟩ := invocation
  rw [runInvocation, Invocation.errand]
  cases s.home with
  | none => rfl
  | some home =>
      simp only [bind_assoc]
      cases order <;> simp [Errand.run]

theorem Invocation.readsOnly_errand (s : Surroundings) {invocation : Invocation}
    (served : invocation.order ≠ .configInit) : Run.ReadsOnly (invocation.errand s) := by
  obtain ⟨order, format, state⟩ := invocation
  unfold Invocation.errand
  split
  · refine (readsOnly_loadDefaults _).bind fun defaults => ?_
    cases order with
    | create _ | list | get _ | remove _ | configShow => exact Run.readsOnly_pure _
    | replay scenario settings =>
        exact (readsOnly_prepareReplay _ _ _).bind fun _ => Run.readsOnly_pure _
    | configInit => contradiction
  · exact Run.readsOnly_throw _

/-! ## Command lines -/

def invocation? (s : Surroundings) (args : List String) : Option Invocation :=
  match grammar.read args with
  | .typed typed => typed.invocation? s.environment
  | .misuse | .version | .help .. => none

def errand (s : Surroundings) (args : List String) : Script (Outcome ⊕ Errand) :=
  match invocation? s args with
  | none => do return .inl (← program s args)
  | some invocation => do
      match ← (invocation.errand s).run with
      | .ok (.inr errand) => return .inr errand
      | .ok (.inl text) => return .inl (.ofResult s (.ok text))
      | .error trouble => return .inl (.ofResult s (.error trouble))

theorem program_of_invocation {s : Surroundings} {args : List String} {invocation : Invocation}
    (h : invocation? s args = some invocation) :
    program s args = do return .ofResult s (← (runInvocation s invocation).run) := by
  unfold invocation? at h
  unfold program
  split at h
  · simp only [*]
  all_goals contradiction

theorem program_eq (s : Surroundings) (args : List String) :
    program s args = (do
      match ← errand s args with
      | .inl outcome => return outcome
      | .inr errand => return .ofResult s (← (errand.run s).run)) := by
  rw [errand]
  cases h : invocation? s args with
  | none => simp
  | some invocation =>
      rw [program_of_invocation h, runInvocation_eq]
      simp only [ExceptT.run_bind, bind_assoc]
      -- both read the same for the errand, and then go on in the same way
      refine congrArg (bind (invocation.errand s).run) (funext fun result => ?_)
      rcases result with trouble | text | errand <;> rfl

theorem readsOnly_errand {s : Surroundings} {args : List String}
    (served : ∀ invocation, invocation? s args = some invocation → invocation.order ≠ .configInit) :
    Script.ReadsOnly (errand s args) := by
  rw [errand]
  cases h : invocation? s args with
  | none =>
      refine Script.ReadsOnly.bind (fun tree => ?_) fun _ => Script.readsOnly_pure _
      unfold invocation? at h
      unfold program
      split at h <;> simp only [*] <;> rfl
  | some invocation =>
      have first := invocation.readsOnly_errand s (served invocation h)
      refine Script.ReadsOnly.bind first fun result => ?_
      rcases result with trouble | text | errand <;> exact Script.readsOnly_pure _

theorem onFiles_errand_of_invocation {s : Surroundings} {args : List String}
    {invocation : Invocation} {tree : FileTree} {found : Errand}
    (read : invocation? s args = some invocation)
    (h : (Script.runOn tree (errand s args)).1 = .inr found) :
    (Run.onFiles tree (invocation.errand s)).1 = .ok (.inr found) := by
  simp only [errand, read, Script.runOn_bind] at h
  show (Script.runOn tree (invocation.errand s).run).1 = _
  rcases result : (Script.runOn tree (invocation.errand s).run).1 with trouble | text | errand
  · rw [result] at h
    exact absurd h Sum.inl_ne_inr
  · rw [result] at h
    exact absurd h Sum.inl_ne_inr
  · rw [result] at h
    obtain rfl : errand = found := Sum.inr.inj h
    rfl

variable {tree : FileTree} {path : String} {register : Register}

theorem onFiles_loadRegister_of_lacks (h : tree.lacks path) :
    Run.onFiles tree (loadRegister path) = (.ok .empty, tree) := by
  rcases h with h | h <;> simp [loadRegister, readPresent, Run.onFiles_bind, h]

theorem onFiles_loadRegister_of_text {content : String} {snapshot : Snapshot}
    (h : tree.read path = .ok content) (read : Snapshot.ofText? content = some snapshot) :
    Run.onFiles tree (loadRegister path) = (.ok (snapshot.restore .empty), tree) := by
  simp [loadRegister, readPresent, Run.onFiles_bind, h, read]

theorem onFiles_saveRegister (h : (tree.save path (stateText register)).1 = .ok ()) :
    Run.onFiles tree (saveRegister path register) =
      (.ok (), (tree.save path (stateText register)).2) := by
  simp [saveRegister, Run.onFiles_bind, h]

theorem onFiles_saveRegister_snd :
    (Run.onFiles tree (saveRegister path register)).2 =
      (tree.save path (stateText register)).2 := by
  rcases saved : (tree.save path (stateText register)).1 with fault | done
  · cases fault <;> simp [saveRegister, Run.onFiles_bind, saved]
  · rw [onFiles_saveRegister saved]

theorem medium_onFiles_saveRegister :
    (Run.onFiles tree (saveRegister path register)).2.medium = tree.medium := by
  rw [onFiles_saveRegister_snd, FileTree.medium_save]

theorem kept_onFiles_saveRegister {trouble : Trouble} {left : FileTree}
    (whole : tree.NeverBreaksOff)
    (h : Run.onFiles tree (saveRegister path register) = (.error trouble, left)) :
    FileTree.Kept tree left := by
  cases saved : (tree.save path (stateText register)).1 with
  | ok done =>
      rw [onFiles_saveRegister saved] at h
      simp at h
  | error fault =>
      obtain rfl : (tree.save path (stateText register)).2 = left := by
        rw [← onFiles_saveRegister_snd, h]
      exact FileTree.kept_save_of_error whole saved

namespace Errand

variable {errand : Errand} {s : Surroundings}

theorem onFiles_run (loaded : Run.onFiles tree (loadRegister errand.path) = (.ok register, tree)) :
    Run.onFiles tree (errand.run s) =
      match errand.task.perform 1 s.now s.hostOrder register with
      | .error fault => (.error (.refused fault), tree)
      | .ok (answer, register) =>
          if errand.task.saves then
            (Run.onFiles tree (saveRegister errand.path register)).map
              (·.map fun _ => answer.text errand.format) id
          else (.ok (answer.text errand.format), tree) := by
  rw [Errand.run, runTask]
  simp only [Run.onFiles_bind, loaded]
  cases errand.task.perform 1 s.now s.hostOrder register with
  | error fault => simp [accepted]
  | ok result =>
      obtain ⟨answer, register'⟩ := result
      simp only [accepted, Run.onFiles_pure]
      cases errand.task.saves with
      | false => rfl
      | true =>
          simp only [if_true, Run.onFiles_bind]
          rcases Run.onFiles tree (saveRegister errand.path register') with ⟨_ | _, left⟩ <;> rfl

/-- An errand leaves the files alone, or ends by saving a register at its path. -/
theorem onFiles_run_cases (tree : FileTree) (s : Surroundings) (errand : Errand) :
    (Run.onFiles tree (errand.run s)).2 = tree ∨
      ∃ register text, Run.onFiles tree (errand.run s) =
        (Run.onFiles tree (saveRegister errand.path register)).map (·.map fun _ => text) id := by
  have same := readsOnly_loadRegister errand.path tree
  rcases loaded : Run.onFiles tree (loadRegister errand.path) with ⟨_ | register, after⟩
  · obtain rfl : after = tree := by simpa [loaded] using same
    exact .inl (by simp only [Errand.run, runTask, Run.onFiles_bind, loaded])
  · obtain rfl : after = tree := by simpa [loaded] using same
    rw [onFiles_run loaded]
    cases errand.task.perform 1 s.now s.hostOrder register with
    | error fault => exact .inl rfl
    | ok result =>
        cases errand.task.saves with
        | false => exact .inl rfl
        | true => exact .inr ⟨result.2, result.1.text errand.format, rfl⟩

theorem kept_onFiles_run {trouble : Trouble} {left : FileTree} (whole : tree.NeverBreaksOff)
    (h : Run.onFiles tree (errand.run s) = (.error trouble, left)) : FileTree.Kept tree left := by
  rcases onFiles_run_cases tree s errand with same | ⟨register, text, saves⟩
  · rw [h] at same
    exact same ▸ .refl tree
  · rw [h] at saves
    rcases saved : Run.onFiles tree (saveRegister errand.path register) with ⟨_ | _, left'⟩
    · obtain rfl : left = left' := by simpa [saved] using congrArg Prod.snd saves
      exact kept_onFiles_saveRegister whole saved
    · simp [saved, Except.map] at saves

theorem medium_onFiles_run : (Run.onFiles tree (errand.run s)).2.medium = tree.medium := by
  rcases onFiles_run_cases tree s errand with same | ⟨register, text, saves⟩
  · rw [same]
  · rw [saves]
    exact medium_onFiles_saveRegister

theorem accepts_onFiles_run (completes : tree.Completes) (accepts : tree.accepts errand.path) :
    (Run.onFiles tree (errand.run s)).2.accepts errand.path := by
  rcases onFiles_run_cases tree s errand with same | ⟨register, text, saves⟩
  · rwa [same]
  · have saved := accepts (stateText register)
    have completes' : (tree.save errand.path (stateText register)).2.Completes := by
      rw [FileTree.Completes, FileTree.medium_save]
      exact completes
    rw [saves, onFiles_saveRegister saved]
    exact FileTree.accepts_of_read completes' (FileTree.read_save saved)

end Errand

end PolicyRouting.Console
