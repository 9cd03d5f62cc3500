import PolicyRouting.Toml.Scalar
import PolicyRouting.Text.Split

/-!
# Reading TOML text

A document is a list of assignments, each under the whole name that its table
and its key give it, and of tables.  A name is defined once; a table may only
be opened where its name was not used, or was used as part of another name.
-/

namespace PolicyRouting.Toml

abbrev Name := List String

def isBareKey (c : Char) : Bool := c.isAlphanum || c = '_' || c = '-'

def simpleKey (cs : List Char) : Except Fault (String × List Char) :=
  match cs with
  | '"' :: rest => line '"' rest
  | '\'' :: rest => line '\'' rest
  | _ =>
      let name := cs.takeWhile isBareKey
      if name.isEmpty then unexpected (invalid "key" []) cs
      else .ok (String.ofList name, cs.drop name.length)

def key : Nat → List Char → Except Fault (Name × List Char)
  | 0, cs => unexpected (invalid "key" []) cs
  | fuel + 1, cs => do
      let (part, rest) ← simpleKey (skipSpace cs)
      match skipSpace rest with
      | '.' :: rest => do
          let (parts, rest) ← key fuel rest
          return (part :: parts, rest)
      | rest => return ([part], rest)

inductive Use where
  | value (typeName : String)
  /-- The name is a table that a longer key opened. -/
  | dotted
  /-- The name is a table that a longer header implied. -/
  | implied
  | table
  | tables
  deriving DecidableEq, Repr

abbrev Uses := List (Name × Use)

def inTable (name : Name) : String :=
  if name.isEmpty then " in document root" else " in table `" ++ Text.joined "." name ++ "`"

def duplicate (table : Name) (last : String) : String :=
  "duplicate key `" ++ last ++ "`" ++ inTable table

def notExtensible (name : Name) (typeName : String) : String :=
  "dotted key `" ++ Text.joined "." name ++ "` attempted to extend non-table type (" ++ typeName
    ++ ")"

def Uses.openDotted (uses : Uses) (table : Name) : Name → Except String Uses
  | [] => .ok uses
  | part :: parts =>
      let name := table ++ [part]
      match uses.lookup name with
      | none => openDotted ((name, .dotted) :: uses) name parts
      | some .dotted | some .implied => openDotted uses name parts
      | some (.value typeName) => .error (notExtensible name typeName)
      | some .table | some .tables => .error ("duplicate key `" ++ part ++ "`")

def Uses.assign (uses : Uses) (table key : Name) (typeName : String) : Except String Uses := do
  let uses ← uses.openDotted table key.dropLast
  let name := table ++ key
  match uses.lookup name with
  | none => .ok ((name, .value typeName) :: uses)
  | some _ => .error (duplicate (table ++ key.dropLast) (key.getLast?.getD ""))

def Uses.openImplied (uses : Uses) (above : Name) : Name → Except String Uses
  | [] => .ok uses
  | part :: parts =>
      let name := above ++ [part]
      match uses.lookup name with
      | none => openImplied ((name, .implied) :: uses) name parts
      | some (.value typeName) => .error (notExtensible name typeName)
      | some _ => openImplied uses name parts

def Uses.openTable (uses : Uses) (name : Name) : Except String Uses := do
  let uses ← uses.openImplied [] name.dropLast
  match uses.lookup name with
  | none | some .implied => .ok ((name, .table) :: uses)
  | some _ => .error (duplicate name.dropLast (name.getLast?.getD ""))

/-- One more table of a list of tables; the names within it are free again. -/
def Uses.openTables (uses : Uses) (name : Name) : Except String Uses := do
  let uses ← uses.openImplied [] name.dropLast
  match uses.lookup name with
  | none => .ok ((name, .tables) :: uses)
  | some .tables => .ok (uses.filter fun use => use.1 = name || !name.isPrefixOf use.1)
  | some _ => .error (duplicate name.dropLast (name.getLast?.getD ""))

/-! ## Values -/

def skipLines : Nat → List Char → List Char
  | 0, cs => cs
  | fuel + 1, cs =>
      let rest := skipComment (skipSpace cs)
      match lineEnd? rest with
      | some rest => skipLines fuel rest
      | none => rest

mutual

def value : Nat → List Char → Except Fault (Value × List Char)
  | 0, cs => unexpected noValue cs
  | fuel + 1, cs =>
      match cs with
      | '[' :: rest => do
          let (items, rest) ← elements fuel rest
          return (.array items, rest)
      | '\x7b' :: rest =>
          match skipSpace rest with
          | '\x7d' :: rest => return (.table [], rest)
          | rest => do
              let (entries, rest) ← inlineEntries fuel [] rest
              return (.table entries, rest)
      | _ => scalar cs

def elements : Nat → List Char → Except Fault (List Value × List Char)
  | 0, cs => unexpected (invalid "array" ["`]`"]) cs
  | fuel + 1, cs =>
      match skipLines cs.length cs with
      | ']' :: rest => return ([], rest)
      | rest => do
          let (item, rest) ← value fuel rest
          match skipLines rest.length rest with
          | ',' :: rest => do
              let (items, rest) ← elements fuel rest
              return (item :: items, rest)
          | ']' :: rest => return ([item], rest)
          | rest => unexpected (invalid "array" ["`]`"]) rest

def inlineEntries : Nat → Uses → List Char → Except Fault (List (Name × Value) × List Char)
  | 0, _, cs => unexpected (invalid "inline table" ["`\x7d`"]) cs
  | fuel + 1, uses, cs => do
      let (name, rest) ← key (cs.length + 1) cs
      match rest with
      | '=' :: rest => do
          let (v, rest) ← value fuel (skipSpace rest)
          match uses.assign [] name v.typeName with
          | .error message => unexpected message cs
          | .ok uses =>
              match skipSpace rest with
              | ',' :: rest => do
                  let (entries, rest) ← inlineEntries fuel uses rest
                  return ((name, v) :: entries, rest)
              | '\x7d' :: rest => return ([(name, v)], rest)
              | rest => unexpected (invalid "inline table" ["`\x7d`"]) rest
      | _ => unexpected (invalid "inline table" ["`.`", "`=`"]) rest

end

/-! ## Documents -/

structure Item where
  name : Name
  value : Option Value
  /-- The text from the value on, and the text behind it. -/
  start : List Char
  behind : List Char
  deriving Repr

structure Progress where
  table : Name
  uses : Uses
  items : List Item
  deriving Inhabited

def lineBehind (label : String → String) (cs : List Char) : Except Fault (List Char) :=
  let rest := skipComment (skipSpace cs)
  match rest with
  | [] => .ok []
  | _ =>
      match lineEnd? rest with
      | some rest => .ok rest
      | none => .error (.next (label "expected newline, `#`") rest)

def plainLabel (message : String) : String := message

def headerLabel (message : String) : String := "invalid table header\n" ++ message

def assignment (progress : Progress) (cs : List Char) : Except Fault (Progress × List Char) := do
  let (name, rest) ← key (cs.length + 1) cs
  match rest with
  | '=' :: rest => do
      let start := skipSpace rest
      let (v, behind) ← value (start.length + 1) start
      let rest ← lineBehind plainLabel behind
      match progress.uses.assign progress.table name v.typeName with
      | .error message => unexpected message cs
      | .ok uses =>
          let item : Item := ⟨progress.table ++ name, some v, start, behind⟩
          return ({ progress with uses, items := progress.items ++ [item] }, rest)
  | _ => unexpected "expected `.`, `=`" rest

def header (progress : Progress) (cs : List Char) : Except Fault (Progress × List Char) := do
  let isList := ['[', '['].isPrefixOf cs
  let (name, rest) ← key (cs.length + 1) (cs.drop (if isList then 2 else 1))
  let closing := if isList then [']', ']'] else [']']
  if closing.isPrefixOf rest then
    let behind := rest.drop closing.length
    let rest ← lineBehind headerLabel behind
    let opened := if isList then progress.uses.openTables name else progress.uses.openTable name
    match opened with
    | .error message => unexpected message cs
    | .ok uses =>
        let item : Item := ⟨name, none, cs, behind⟩
        return (⟨name, uses, progress.items ++ [item]⟩, rest)
  else
    unexpected (headerLabel ("expected `.`, `" ++ String.ofList closing ++ "`")) rest

/-- The items of a document; every step takes one line at least. -/
def items : Nat → Progress → List Char → Except Fault (List Item)
  | 0, progress, _ => .ok progress.items
  | fuel + 1, progress, cs =>
      match skipSpace cs with
      | [] => .ok progress.items
      | '#' :: rest => do
          let rest ← lineBehind plainLabel ('#' :: rest)
          items fuel progress rest
      | '[' :: rest => do
          let (progress, rest) ← header progress ('[' :: rest)
          items fuel progress rest
      | c :: rest =>
          match lineEnd? (c :: rest) with
          | some rest => items fuel progress rest
          | none => do
              let (progress, rest) ← assignment progress (c :: rest)
              items fuel progress rest

def itemsOfText (s : String) : Except Fault (List Item) :=
  let cs := match s.toList with
    | '\ufeff' :: cs => cs
    | cs => cs
  items (cs.length + 1) ⟨[], [], []⟩ cs

def byteCount (cs : List Char) : Nat := cs.foldr (fun c n => c.utf8Size + n) 0

/-- The line and column of a place; the end of a text is behind its last character. -/
def place (before text : List Char) : Nat × Nat :=
  let (shown, beyond) := if before.length < text.length ∨ text.isEmpty then (before, 0)
    else (before.dropLast, 1)
  let lines := Text.pieces '\n' shown
  (lines.length, (lines.getLast?.getD []).length + beyond + 1)

def Fault.shownIn (fault : Fault) (s : String) : String :=
  let text := s.toList
  let before := text.take (text.length - fault.rest.length)
  let marked := byteCount (fault.rest.take (fault.rest.length - fault.behind.length))
  let (lineNumber, column) := place before text
  let content := (Text.pieces '\n' text)[lineNumber - 1]?.getD []
  let number := Text.decimalText lineNumber
  let gutter := String.ofList (List.replicate (number.length + 1) ' ') ++ "|"
  let marks := min marked (byteCount content - (column - 1))
  "TOML parse error at line " ++ number ++ ", column " ++ Text.decimalText column ++ "\n"
    ++ gutter ++ "\n"
    ++ number ++ " | " ++ String.ofList content ++ "\n"
    ++ gutter ++ String.ofList (List.replicate column ' ' ++ List.replicate (max 1 marks) '^')
    ++ "\n"
    ++ fault.message ++ "\n"

end PolicyRouting.Toml
