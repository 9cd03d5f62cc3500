import PolicyRouting.Text.Numeral

/-!
# Scalars of a TOML document

Strings, numbers, truth values and dates.  Each reader takes a scalar from
the front of the text and gives what is behind it.  A fault holds the text
from which on nothing could be read, so that its place can be shown.  What is
written are strings, between double quotes on one line.
-/

namespace PolicyRouting.Toml

inductive Value where
  | string (s : String)
  | integer (n : Int)
  | float (token : String)
  | boolean (b : Bool)
  | datetime
  | array (items : List Value)
  | table (entries : List (List String × Value))
  deriving Repr, Inhabited

def Value.typeName : Value → String
  | string _ => "string"
  | integer _ => "integer"
  | float _ => "float"
  | boolean _ => "boolean"
  | datetime => "datetime"
  | array _ => "array"
  | table _ => "inline table"

/-- What is wrong, and the texts that start and end the part that is marked as wrong. -/
structure Fault where
  message : String
  rest : List Char
  behind : List Char
  deriving Repr

def Fault.next (message : String) (rest : List Char) : Fault := ⟨message, rest, rest.drop 1⟩

def unexpected {α : Type} (message : String) (rest : List Char) : Except Fault (α × List Char) :=
  .error (.next message rest)

def invalid (part : String) (expected : List String) : String :=
  "invalid " ++ part
    ++ (if expected.isEmpty then "" else "\nexpected " ++ String.intercalate ", " expected)

def skipSpace (cs : List Char) : List Char := cs.dropWhile fun c => c = ' ' || c = '\t'

def lineEnd? : List Char → Option (List Char)
  | '\n' :: rest => some rest
  | '\r' :: '\n' :: rest => some rest
  | _ => none

def isText (c : Char) : Bool := c = '\t' || (0x20 ≤ c.toNat && c.toNat ≠ 0x7F)

def skipComment (cs : List Char) : List Char :=
  match cs with
  | '#' :: rest => rest.dropWhile isText
  | _ => cs

/-! ## Strings -/

def escapeNames : List String := ["`b`", "`f`", "`n`", "`r`", "`t`", "`u`", "`U`", "`\\`", "`\"`"]

def scalarValue? (digits : List Char) : Option Char :=
  (Text.digits? 16 digits).bind fun n =>
    if n < 0xD800 ∨ (0xDFFF < n ∧ n < 0x110000) then some (Char.ofNat n) else none

def numbered (width : Nat) (rest : List Char) : Except Fault (Char × List Char) :=
  match scalarValue? (rest.take width) with
  | some c =>
      if (rest.take width).length = width then .ok (c, rest.drop width)
      else unexpected (invalid ("unicode " ++ Text.decimalText width ++ "-digit hex code") []) rest
  | none => unexpected (invalid ("unicode " ++ Text.decimalText width ++ "-digit hex code") []) rest

def escape : List Char → Except Fault (Char × List Char)
  | 'u' :: rest => numbered 4 rest
  | 'U' :: rest => numbered 8 rest
  | e :: rest =>
      match [('b', '\x08'), ('f', '\x0c'), ('n', '\n'), ('r', '\r'), ('t', '\t'), ('\\', '\\'),
        ('"', '"')].lookup e with
      | some c => .ok (c, rest)
      | none => unexpected (invalid "escape sequence" escapeNames) (e :: rest)
  | [] => unexpected (invalid "escape sequence" escapeNames) []

/-- The characters up to the closing quote; escapes are read only between double quotes. -/
def quoted (quote : Char) (name : String) :
    Nat → List Char → Except Fault (List Char × List Char)
  | 0, cs => unexpected (invalid name []) cs
  | fuel + 1, cs =>
      match cs with
      | [] => unexpected (invalid name []) []
      | c :: rest =>
          if c = quote then .ok ([], rest)
          else if c = '\\' ∧ quote = '"' then do
            let (c, rest) ← escape rest
            let (more, rest) ← quoted quote name fuel rest
            return (c :: more, rest)
          else if isText c then do
            let (more, rest) ← quoted quote name fuel rest
            return (c :: more, rest)
          else unexpected (invalid name []) cs

def continued? (cs : List Char) : Option (List Char) :=
  (lineEnd? (skipSpace cs)).map fun rest =>
    rest.dropWhile fun c => c = ' ' || c = '\t' || c = '\n' || c = '\r'

/-- The characters up to three closing quotes; one or two quotes more belong to the string. -/
def quotedLines (quote : Char) (name : String) :
    Nat → List Char → Except Fault (List Char × List Char)
  | 0, cs => unexpected (invalid name []) cs
  | fuel + 1, cs =>
      match cs with
      | [] => unexpected (invalid name []) []
      | c :: rest =>
          let run := cs.takeWhile (· = quote)
          if c = quote ∧ 3 ≤ run.length then
            let extra := min 2 (run.length - 3)
            .ok (run.take extra, cs.drop (extra + 3))
          else if c = '\\' ∧ quote = '"' then
            match continued? rest with
            | some rest => quotedLines quote name fuel rest
            | none => do
                let (c, rest) ← escape rest
                let (more, rest) ← quotedLines quote name fuel rest
                return (c :: more, rest)
          else match lineEnd? cs with
            | some rest => do
                let (more, rest) ← quotedLines quote name fuel rest
                return ('\n' :: more, rest)
            | none =>
                if isText c then do
                  let (more, rest) ← quotedLines quote name fuel rest
                  return (c :: more, rest)
                else unexpected (invalid name []) cs

def line (quote : Char) (rest : List Char) : Except Fault (String × List Char) :=
  let name := if quote = '"' then "basic string" else "literal string"
  (quoted quote name (rest.length + 1) rest).map fun (cs, rest) => (String.ofList cs, rest)

def lines (quote : Char) (rest : List Char) : Except Fault (String × List Char) :=
  let name := if quote = '"' then "multiline basic string" else "multiline literal string"
  let rest := (lineEnd? rest).getD rest
  (quotedLines quote name (rest.length + 1) rest).map fun (cs, rest) => (String.ofList cs, rest)

/-! ## Numbers -/

def digitGroups (base : Nat) : List Char → List Char × List Char
  | c :: '_' :: d :: rest =>
      if (Text.digitValue? base c).isNone then ([], c :: '_' :: d :: rest)
      else if (Text.digitValue? base d).isNone then ([c], '_' :: d :: rest)
      else
        let (ds, rest) := digitGroups base (d :: rest)
        (c :: ds, rest)
  | c :: rest =>
      if (Text.digitValue? base c).isNone then ([], c :: rest)
      else
        let (ds, rest) := digitGroups base rest
        (c :: ds, rest)
  | [] => ([], [])

def someDigits? (base : Nat) (cs : List Char) : Option (List Char × List Char) :=
  let found := digitGroups base cs
  if found.1.isEmpty then none else some found

def sign : List Char → List Char × List Char
  | '+' :: rest => (['+'], rest)
  | '-' :: rest => (['-'], rest)
  | cs => ([], cs)

def whole? (cs : List Char) : Option (List Char × List Char) :=
  match cs with
  | '0' :: rest => some (['0'], rest)
  | _ => someDigits? 10 cs

def fraction? : List Char → Option (List Char × List Char)
  | '.' :: rest => (someDigits? 10 rest).map fun (ds, rest) => ('.' :: ds, rest)
  | _ => none

def exponent? : List Char → Option (List Char × List Char)
  | e :: rest =>
      if e = 'e' ∨ e = 'E' then
        let (mark, rest) := sign rest
        (someDigits? 10 rest).map fun (ds, rest) => ('e' :: mark ++ ds, rest)
      else none
  | [] => none

def float? (cs : List Char) : Option (Value × List Char) :=
  let (mark, body) := sign cs
  match body with
  | 'i' :: 'n' :: 'f' :: rest => some (.float (String.ofList (mark ++ ['i', 'n', 'f'])), rest)
  | 'n' :: 'a' :: 'n' :: rest => some (.float (String.ofList (mark ++ ['n', 'a', 'n'])), rest)
  | _ => do
      let (ds, rest) ← whole? body
      match fraction? rest with
      | some (fraction, rest) =>
          let (exponent, rest) := (exponent? rest).getD ([], rest)
          return (.float (String.ofList (mark ++ ds ++ fraction ++ exponent)), rest)
      | none =>
          let (exponent, rest) ← exponent? rest
          return (.float (String.ofList (mark ++ ds ++ exponent)), rest)

/-- An integer of 64 bits; only a decimal one has a sign. -/
def integer? (cs : List Char) : Option (Value × List Char) :=
  let inRange := fun (n : Int) (rest : List Char) =>
    if Int64.minValue.toInt ≤ n ∧ n ≤ Int64.maxValue.toInt then some (.integer n, rest) else none
  let radix := fun (base : Nat) (rest : List Char) => do
    let (ds, rest) ← someDigits? base rest
    inRange (← Text.digits? base ds) rest
  match cs with
  | '0' :: 'x' :: rest => radix 16 rest
  | '0' :: 'o' :: rest => radix 8 rest
  | '0' :: 'b' :: rest => radix 2 rest
  | _ => do
      let (mark, body) := sign cs
      let (ds, rest) ← whole? body
      let n : Int ← Text.digits? 10 ds
      inRange (if mark = ['-'] then -n else n) rest

/-! ## Dates and times -/

def field? (width low high : Nat) (cs : List Char) : Option (List Char) :=
  let ds := cs.take width
  match Text.digits? 10 ds with
  | some n => if ds.length = width ∧ low ≤ n ∧ n ≤ high then some (cs.drop width) else none
  | none => none

def expect? (c : Char) : List Char → Option (List Char)
  | d :: rest => if c = d then some rest else none
  | [] => none

def date? (cs : List Char) : Option (List Char) := do
  let cs ← field? 4 0 9999 cs >>= expect? '-'
  let cs ← field? 2 1 12 cs >>= expect? '-'
  field? 2 1 31 cs

def time? (cs : List Char) : Option (List Char) := do
  let cs ← field? 2 0 23 cs >>= expect? ':'
  let cs ← field? 2 0 59 cs >>= expect? ':'
  let cs ← field? 2 0 60 cs
  match cs with
  | '.' :: rest =>
      let ds := rest.takeWhile Char.isDigit
      if ds.isEmpty then some cs else some (rest.drop ds.length)
  | _ => some cs

def offset? : List Char → Option (List Char)
  | c :: rest =>
      if c = 'Z' ∨ c = 'z' then some rest
      else if c = '+' ∨ c = '-' then do
        let cs ← field? 2 0 23 rest >>= expect? ':'
        field? 2 0 59 cs
      else none
  | [] => none

def datetime? (cs : List Char) : Option (Value × List Char) :=
  match date? cs with
  | none => (time? cs).map fun rest => (.datetime, rest)
  | some behind =>
      match behind with
      | c :: rest =>
          if c = 'T' ∨ c = 't' ∨ c = ' ' then
            match time? rest with
            | some rest => some (.datetime, (offset? rest).getD rest)
            | none => if c = ' ' then some (.datetime, behind) else none
          else some (.datetime, behind)
      | [] => some (.datetime, [])

def number? (cs : List Char) : Option (Value × List Char) :=
  datetime? cs <|> float? cs <|> integer? cs

def noValue : String := invalid "string" ["`\"`", "`'`"]

def scalar (cs : List Char) : Except Fault (Value × List Char) :=
  match cs with
  | '"' :: '"' :: '"' :: rest => (lines '"' rest).map fun (s, rest) => (.string s, rest)
  | '\'' :: '\'' :: '\'' :: rest => (lines '\'' rest).map fun (s, rest) => (.string s, rest)
  | '"' :: rest => (line '"' rest).map fun (s, rest) => (.string s, rest)
  | '\'' :: rest => (line '\'' rest).map fun (s, rest) => (.string s, rest)
  | 't' :: 'r' :: 'u' :: 'e' :: rest => .ok (.boolean true, rest)
  | 'f' :: 'a' :: 'l' :: 's' :: 'e' :: rest => .ok (.boolean false, rest)
  | _ =>
      match number? cs with
      | some found => .ok found
      | none => unexpected noValue cs

def escaped (c : Char) : List Char :=
  if c = '"' ∨ c = '\\' then ['\\', c]
  else if c = '\n' then ['\\', 'n']
  else if c = '\r' then ['\\', 'r']
  else if c = '\t' then ['\\', 't']
  else if c.toNat < 0x20 ∨ c.toNat = 0x7F then ['\\', 'u'] ++ Text.padded 16 4 c.toNat
  else [c]

def quotedText (s : String) : String :=
  String.ofList ('"' :: s.toList.flatMap escaped ++ ['"'])

def assignmentText (name value : String) : String := name ++ " = " ++ quotedText value ++ "\n"

end PolicyRouting.Toml
