import PolicyRouting.Text.Numeral
import PolicyRouting.Text.Split

/-!
# Strings in YAML

A string of several lines is written as a literal block.  A string is put
between single quotes if it would be read as another kind of value, or if its
characters have a meaning at their place; between double quotes, with escapes,
if it holds characters that cannot be written as they are.  Any other string
is written plain.
-/

namespace PolicyRouting.Yaml

def wordValues : List String :=
  ["", "~", "null", "Null", "NULL", "true", "True", "TRUE", "false", "False", "FALSE",
   ".inf", ".Inf", ".INF", "+.inf", "+.Inf", "+.INF", "-.inf", "-.Inf", "-.INF",
   ".nan", ".NaN", ".NAN"]

def signed : List Char → Option Char × List Char
  | '+' :: cs => (some '+', cs)
  | '-' :: cs => (some '-', cs)
  | cs => (none, cs)

def isRadixInteger (base : Nat) (negative : Bool) (digits : List Char) : Bool :=
  match Text.digits? base digits with
  | some n => if negative then n ≤ 1 <<< 127 else n < 1 <<< 128
  | none => false

def isPrefixedInteger (cs : List Char) : Bool :=
  let (sign, body) := signed cs
  let negative := sign = some '-'
  match body with
  | '0' :: 'x' :: digits => isRadixInteger 16 negative digits
  | '0' :: 'o' :: digits => isRadixInteger 8 negative digits
  | '0' :: 'b' :: digits => isRadixInteger 2 negative digits
  | _ => false

/-- Nothing or `e` with an optional sign and digits; gives the exponent. -/
def exponent? : List Char → Option Int
  | [] => some 0
  | e :: cs =>
      if e = 'e' ∨ e = 'E' then
        let (sign, digits) := signed cs
        if digits.all Char.isDigit then
          (Text.digits? 10 digits).map fun n => if sign = some '-' then -(n : Int) else n
        else none
      else none

def isInDoubleRange (n : Nat) (exponent : Int) : Bool :=
  let magnitude := ((Nat.toDigits 10 n).length : Int) + exponent
  if n = 0 ∨ magnitude < 300 then true
  else if 400 < magnitude then false
  else n * Nat.pow 10 exponent.toNat < (1 <<< 1024 - 1 <<< 970) * Nat.pow 10 (-exponent).toNat

/-- A decimal number, with or without a point and an exponent, that a double can hold. -/
def isDecimal (cs : List Char) : Bool :=
  let body := (signed cs).2
  let whole := body.takeWhile Char.isDigit
  let behind := body.dropWhile Char.isDigit
  let (fraction, tail) := match behind with
    | '.' :: rest => (rest.takeWhile Char.isDigit, rest.dropWhile Char.isDigit)
    | rest => ([], rest)
  match Text.digits? 10 (whole ++ fraction), exponent? tail with
  | some n, some e => isInDoubleRange n (e - fraction.length)
  | _, _ => false

/-- A plain scalar of this text is a null, a truth value or a number. -/
def readsAsOther (s : String) : Bool :=
  wordValues.contains s || isPrefixedInteger s.toList || isDecimal s.toList

def isBreak (c : Char) : Bool := ['\n', '\r', '\u0085', '\u2028', '\u2029'].contains c

def isBlankOrBreak (c : Char) : Bool := c = ' ' || c = '\t' || c = '\x00' || isBreak c

def endsBefore (rest : List Char) : Bool :=
  match rest with
  | [] => true
  | c :: _ => isBlankOrBreak c

def opensOther : List Char → Bool
  | [] => false
  | c :: rest =>
      "#,[]\x7b\x7d&*!|>'\"%@`".toList.contains c
        || (['?', ':', '-'].contains c && endsBefore rest)

/-- A colon before a blank, or a hash behind one. -/
def hasMark (before : Char) : List Char → Bool
  | [] => false
  | c :: rest =>
      (c = ':' && endsBefore rest) || (c = '#' && isBlankOrBreak before) || hasMark c rest

def isMarked (cs : List Char) : Bool :=
  ['-', '-', '-'].isPrefixOf cs || ['.', '.', '.'].isPrefixOf cs || opensOther cs
    || hasMark 'a' cs

def isPrintable (c : Char) : Bool :=
  let n := c.toNat
  n = 0x0A || (0x20 ≤ n && n ≤ 0x7E) || (0xA0 ≤ n && n ≠ 0xFEFF && n ≠ 0xFFFE && n ≠ 0xFFFF)

def hasPair (first second : Char → Bool) : List Char → Bool
  | c :: d :: rest => (first c && second d) || hasPair first second (d :: rest)
  | _ => false

inductive Style where
  | plain | singleQuoted | doubleQuoted | literal
  deriving DecidableEq, Repr

def style (s : String) : Style :=
  let cs := s.toList
  let isSpace := fun (c : Char) => c = ' '
  let atEnd := fun (cs : List Char) => cs.head?.any fun c => isSpace c || isBreak c
  let special := !cs.all isPrintable || hasPair isSpace isBreak cs
  if cs.contains '\n' then
    if special || cs.getLast?.any isSpace then .doubleQuoted else .literal
  else if special || hasPair isBreak isSpace cs then .doubleQuoted
  else if readsAsOther s || isMarked cs || atEnd cs || atEnd cs.reverse || cs.any isBreak then
    .singleQuoted
  else .plain

def escapeLetter? (c : Char) : Option Char :=
  [('\x00', '0'), ('\x07', 'a'), ('\x08', 'b'), ('\t', 't'), ('\n', 'n'), ('\x0b', 'v'),
   ('\x0c', 'f'), ('\r', 'r'), ('\x1b', 'e'), ('"', '"'), ('\\', '\\'), ('\u0085', 'N'),
   ('\u00a0', '_'), ('\u2028', 'L'), ('\u2029', 'P')].lookup c

def upperHex (width n : Nat) : List Char := (Text.padded 16 width n).map Char.toUpper

def escaped (c : Char) : List Char :=
  if isPrintable c && !isBreak c && c ≠ '"' && c ≠ '\\' then [c]
  else match escapeLetter? c with
    | some letter => ['\\', letter]
    | none =>
        if c.toNat ≤ 0xFF then ['\\', 'x'] ++ upperHex 2 c.toNat
        else if c.toNat ≤ 0xFFFF then ['\\', 'u'] ++ upperHex 4 c.toNat
        else ['\\', 'U'] ++ upperHex 8 c.toNat

/-- How a literal block states its indentation and the line ends behind its last line. -/
def literalHints (cs : List Char) : List Char :=
  let indentation := if cs.head?.any fun c => c = ' ' || isBreak c then ['2'] else []
  let lineEnds := match cs.reverse with
    | [] => ['-']
    | last :: before =>
        if !isBreak last then ['-']
        else match before with
          | [] => ['+']
          | c :: _ => if isBreak c then ['+'] else []
  indentation ++ lineEnds

def literalLines (cs : List Char) : List (List Char) :=
  let lines := Text.pieces '\n' cs
  if lines.getLast? = some [] then lines.dropLast else lines

def stringLines (s : String) : List (List Char) :=
  let cs := s.toList
  match style s with
  | .plain => [cs]
  | .singleQuoted =>
      ['\'' :: cs.flatMap (fun c => if c = '\'' then ['\'', '\''] else [c]) ++ ['\'']]
  | .doubleQuoted => ['"' :: cs.flatMap escaped ++ ['"']]
  | .literal => ('|' :: literalHints cs) :: literalLines cs

end PolicyRouting.Yaml
