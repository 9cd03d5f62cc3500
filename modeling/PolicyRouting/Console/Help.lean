import PolicyRouting.Console.Grammar
import PolicyRouting.Text.Columns

/-!
# Help pages

A page names the command, shows how it is used and lists what it takes.  The
descriptions stand in one column; where one of them would not fit the page,
all of its list stand on lines of their own.
-/

namespace PolicyRouting.Console

structure HelpEntry where
  term : String
  help : String
  deriving Repr

def angled (name : String) : String := "<" ++ name ++ ">"

def OptionForm.valueName (option : OptionForm) : String :=
  String.ofList (option.long.toList.map fun c => if c = '-' then '_' else c.toUpper)

def OptionForm.term (option : OptionForm) : String :=
  "--" ++ option.long ++ " " ++ angled option.valueName

def letterTerm (letter : Option Char) (term : String) : String :=
  match letter with
  | some c => String.ofList ['-', c, ',', ' '] ++ term
  | none => "    " ++ term

def OptionForm.notes (option : OptionForm) (environment : String → Option String) : List String :=
  let standIn := option.standIn.toList.map fun name =>
    "[env: " ++ name ++ "=" ++ (environment name).getD "" ++ "]"
  let choice := match option.kind with
    | .choice names => ["[possible values: " ++ Text.joined ", " names ++ "]"]
    | _ => []
  standIn ++ choice

def OptionForm.entry (environment : String → Option String) (option : OptionForm) : HelpEntry where
  term := letterTerm option.short option.term
  help := Text.joined " " (option.help :: option.notes environment)

/-- Options are listed by their place, and two with one place by how they are written. -/
def sortKey (place : Nat) (option : OptionForm) : Nat × String :=
  (place, match option.short with
    | some c => String.ofList [c, '0']
    | none => option.long)

def keyLe (a b : Nat × String) : Bool := a.1 < b.1 || (a.1 = b.1 && decide (a.2 ≤ b.2))

def placed (options : List OptionForm) : List ((Nat × String) × OptionForm) :=
  (List.range options.length).zip options |>.map fun (i, option) => (sortKey i option, option)

def listedOptions (own shared : List OptionForm) : List OptionForm :=
  ((placed own ++ placed shared).mergeSort fun a b => keyLe a.1 b.1).map (·.2)

def pageWidth : Nat := 100

def textColumns (s : String) : Nat := Text.columns s.toList

/-- The description would leave the page behind a wide column of terms. -/
def breaksLines (longest : Nat) (entry : HelpEntry) : Bool :=
  let taken := longest + 12
  taken ≤ pageWidth && 40 < taken && pageWidth - taken < textColumns entry.help

def blanks (n : Nat) : String := String.ofList (List.replicate n ' ')

def entryLines (entries : List HelpEntry) : List String :=
  let longest := entries.foldl (fun n entry => max n (textColumns entry.term)) 0
  if entries.any (breaksLines longest) then
    entries.flatMap fun entry => ["  " ++ entry.term, blanks 10 ++ entry.help]
  else
    entries.map fun entry =>
      "  " ++ entry.term ++ blanks (longest + 2 - textColumns entry.term) ++ entry.help

def sectionLines (title : String) (entries : List HelpEntry) : List String :=
  if entries.isEmpty then [] else "" :: title :: entryLines entries

def helpCommand : HelpEntry :=
  ⟨"help", "Print this message or the help of the given subcommand(s)"⟩

def usageLine (path : List String) (form : CommandForm) : String :=
  let required := (form.options.filter (·.isRequired)).map OptionForm.term
  let positionals := form.positionals.map fun positional => angled positional.name
  let command := if form.commands.isEmpty then [] else ["<COMMAND>"]
  Text.joined " " (["Usage:"] ++ path ++ ["[OPTIONS]"] ++ required ++ positionals ++ command)

def Grammar.helpPage (g : Grammar) (environment : String → Option String) (path : List String)
    (form : CommandForm) : String :=
  let commands := form.commands.map fun child => (⟨child.name, child.about⟩ : HelpEntry)
  let commands := if commands.isEmpty then [] else commands ++ [helpCommand]
  let positionals := form.positionals.map fun positional =>
    (⟨angled positional.name, positional.help⟩ : HelpEntry)
  let options := (listedOptions form.options g.shared).map (OptionForm.entry environment)
  let help : HelpEntry := ⟨letterTerm (some 'h') "--help", "Print help"⟩
  let version : HelpEntry := ⟨letterTerm (some 'V') "--version", "Print version"⟩
  let questions := if path.length = 1 then [help, version] else [help]
  let lines := [form.about, "", usageLine path form] ++ sectionLines "Commands:" commands
    ++ sectionLines "Arguments:" positionals ++ sectionLines "Options:" (options ++ questions)
  Text.joined "\n" lines ++ "\n"

end PolicyRouting.Console
