import PolicyRouting.Text.Split

/-!
# Command lines

A grammar is a tree of commands with options and positional values.  Reading
goes from left to right and stops at the first thing it cannot use, at a
request for help, or at a request for the version; what is missing is noticed
only at the end.  Shared options may stand at every level, and the deepest one
counts.
-/

namespace PolicyRouting.Console

inductive ValueKind where
  | text
  | path
  | choice (names : List String)
  deriving DecidableEq, Repr

def ValueKind.accepts : ValueKind → String → Bool
  | text, _ => true
  | path, s => s ≠ ""
  | choice names, s => names.contains s

structure OptionForm where
  long : String
  short : Option Char := none
  help : String
  kind : ValueKind := .text
  isRequired : Bool := false
  /-- The environment variable that stands in for the option. -/
  standIn : Option String := none
  deriving DecidableEq, Repr

structure PositionalForm where
  name : String
  help : String := ""
  kind : ValueKind := .text
  deriving DecidableEq, Repr

inductive CommandForm where
  | leaf (name about : String) (positionals : List PositionalForm) (options : List OptionForm)
  | branch (name about : String) (commands : List CommandForm)
  deriving Repr, Inhabited

namespace CommandForm

def name : CommandForm → String
  | leaf name .. | branch name .. => name

def about : CommandForm → String
  | leaf _ about .. | branch _ about _ => about

def positionals : CommandForm → List PositionalForm
  | leaf _ _ positionals _ => positionals
  | branch .. => []

def options : CommandForm → List OptionForm
  | leaf _ _ _ options => options
  | branch .. => []

def commands : CommandForm → List CommandForm
  | leaf .. => []
  | branch _ _ commands => commands

def command? (form : CommandForm) (name : String) : Option CommandForm :=
  form.commands.find? (·.name = name)

end CommandForm

structure Grammar where
  program : CommandForm
  version : String
  shared : List OptionForm
  deriving Inhabited

abbrev Values := List (String × String)

structure Typed where
  path : List String
  form : CommandForm
  values : Values := []
  positionals : List String := []
  /-- The values given above, the nearest first. -/
  above : Values := []
  deriving Inhabited

inductive Reading where
  | typed (typed : Typed)
  | misuse
  | help (path : List String) (form : CommandForm)
  | version
  deriving Inhabited

namespace Typed

def value? (typed : Typed) (long : String) : Option String :=
  (typed.values ++ typed.above).lookup long

def positional? (typed : Typed) (i : Nat) : Option String := typed.positionals[i]?

/-- Takes the value of an option; an option is given once at a level. -/
def give? (typed : Typed) (option : OptionForm) (s : String) : Option Typed :=
  if (typed.values.lookup option.long).isSome || !option.kind.accepts s then none
  else some { typed with values := (option.long, s) :: typed.values }

def givePositional? (typed : Typed) (s : String) : Option Typed :=
  match typed.form.positionals[typed.positionals.length]? with
  | some positional =>
      if positional.kind.accepts s then
        some { typed with positionals := typed.positionals ++ [s] }
      else none
  | none => none

def enter (typed : Typed) (form : CommandForm) : Typed where
  path := typed.path ++ [form.name]
  form := form
  above := typed.values ++ typed.above

def finish (typed : Typed) : Reading :=
  let optionsGiven := typed.form.options.all fun option =>
    !option.isRequired || (typed.values.lookup option.long).isSome
  if typed.form.commands.isEmpty && typed.positionals.length = typed.form.positionals.length
      && optionsGiven then .typed typed
  else .misuse

def finishWith (typed : Typed) : List String → Reading
  | [] => typed.finish
  | s :: rest =>
      match typed.givePositional? s with
      | some typed => typed.finishWith rest
      | none => .misuse

end Typed

/-! ## Reading -/

def looksLikeOption (s : String) : Bool :=
  match s.toList with
  | '-' :: _ :: _ => true
  | _ => false

inductive Spelling where
  | long (name : String) (attached : Option String)
  | short (name : Char) (attached : Option String)
  | separator
  | word
  deriving DecidableEq, Repr

/-- A value may be attached to a letter with an equals sign or without one. -/
def attachedToLetter : List Char → Option String
  | [] => none
  | '=' :: cs => some (String.ofList cs)
  | cs => some (String.ofList cs)

def spelling (s : String) : Spelling :=
  match s.toList with
  | ['-', '-'] => .separator
  | '-' :: '-' :: cs =>
      match Text.cutFirst '=' cs with
      | some (name, attached) => .long (String.ofList name) (some (String.ofList attached))
      | none => .long (String.ofList cs) none
  | '-' :: c :: cs => .short c (attachedToLetter cs)
  | _ => .word

namespace Grammar

def optionsAt (g : Grammar) (typed : Typed) : List OptionForm := typed.form.options ++ g.shared

def helpFor (path : List String) (form : CommandForm) : List String → Reading
  | [] => .help path form
  | name :: names =>
      match form.command? name with
      | some child => helpFor (path ++ [name]) child names
      | none => .misuse

/-- What an option does that takes no value, or the option itself. -/
inductive Meaning where
  | help | version | option (form : OptionForm) | unknown

def meaningOfLong (g : Grammar) (typed : Typed) (name : String) : Meaning :=
  if name = "help" then .help
  else if name = "version" ∧ typed.path.length = 1 then .version
  else match (g.optionsAt typed).find? (·.long = name) with
    | some option => .option option
    | none => .unknown

def meaningOfShort (g : Grammar) (typed : Typed) (name : Char) : Meaning :=
  if name = 'h' then .help
  else if name = 'V' ∧ typed.path.length = 1 then .version
  else match (g.optionsAt typed).find? (·.short = some name) with
    | some option => .option option
    | none => .unknown

/-- Reads the arguments of a command that was reached, or the value an option waits for. -/
def readFrom (g : Grammar) : Option OptionForm → Typed → List String → Reading
  | none, typed, [] => typed.finish
  | some _, _, [] => .misuse
  | some form, typed, s :: rest =>
      if looksLikeOption s then .misuse
      else match typed.give? form s with
        | some typed => g.readFrom none typed rest
        | none => .misuse
  | none, typed, s :: rest =>
      match spelling s with
      | .separator => typed.finishWith rest
      | .long name attached =>
          match g.meaningOfLong typed name, attached with
          | .help, none => .help typed.path typed.form
          | .version, none => .version
          | .option form, none => g.readFrom (some form) typed rest
          | .option form, some value =>
              match typed.give? form value with
              | some typed => g.readFrom none typed rest
              | none => .misuse
          | _, _ => .misuse
      | .short name attached =>
          match g.meaningOfShort typed name, attached with
          | .help, _ => .help typed.path typed.form
          | .version, _ => .version
          | .option form, none => g.readFrom (some form) typed rest
          | .option form, some value =>
              match typed.give? form value with
              | some typed => g.readFrom none typed rest
              | none => .misuse
          | .unknown, _ => .misuse
      | .word =>
          match typed.form with
          | .leaf .. =>
              match typed.givePositional? s with
              | some typed => g.readFrom none typed rest
              | none => .misuse
          | .branch .. =>
              if s = "help" then helpFor typed.path typed.form rest
              else match typed.form.command? s with
                | some form => g.readFrom none (typed.enter form) rest
                | none => .misuse

def read (g : Grammar) (args : List String) : Reading :=
  g.readFrom none { path := [g.program.name], form := g.program } args

end Grammar

end PolicyRouting.Console
