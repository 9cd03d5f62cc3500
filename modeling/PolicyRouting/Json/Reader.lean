import PolicyRouting.Json.Basic
import PolicyRouting.Text.Numeral

/-!
# Reading JSON text

The grammar is strict: four blanks, no trailing comma, no leading zero, no
raw control character in a string, nothing behind the value.  The depth of a
text is at most its length, which serves as fuel.
-/

namespace PolicyRouting.Json

def isJsonBlank (c : Char) : Bool := c = ' ' || c = '\t' || c = '\n' || c = '\r'

def skipBlanks (cs : List Char) : List Char := cs.dropWhile isJsonBlank

def spanDigits (cs : List Char) : Option (List Char × List Char) :=
  let ds := cs.takeWhile Char.isDigit
  if ds.isEmpty then none else some (ds, cs.drop ds.length)

def spanWhole (cs : List Char) : Option (List Char × List Char) :=
  match spanDigits cs with
  | some ('0' :: _ :: _, _) => none
  | found => found

def spanFraction (cs : List Char) : Option (List Char × List Char) :=
  match cs with
  | '.' :: rest => (spanDigits rest).map fun (ds, rest) => ('.' :: ds, rest)
  | _ => some ([], cs)

def spanExponent (cs : List Char) : Option (List Char × List Char) :=
  match cs with
  | e :: rest =>
      if e = 'e' ∨ e = 'E' then
        match rest with
        | sign :: digits =>
            if sign = '+' ∨ sign = '-' then
              (spanDigits digits).map fun (ds, rest) => (e :: sign :: ds, rest)
            else (spanDigits rest).map fun (ds, rest) => (e :: ds, rest)
        | [] => none
      else some ([], cs)
  | [] => some ([], [])

def spanUnsigned (cs : List Char) : Option (List Char × List Char) := do
  let (whole, cs) ← spanWhole cs
  let (fraction, cs) ← spanFraction cs
  let (exponent, cs) ← spanExponent cs
  return (whole ++ fraction ++ exponent, cs)

def spanNumber (cs : List Char) : Option (List Char × List Char) :=
  match cs with
  | '-' :: rest => (spanUnsigned rest).map fun (token, rest) => ('-' :: token, rest)
  | _ => spanUnsigned cs

def isHighSurrogate (n : Nat) : Bool := 0xD800 ≤ n && n < 0xDC00

def isLowSurrogate (n : Nat) : Bool := 0xDC00 ≤ n && n < 0xE000

def simpleEscape? (c : Char) : Option Char :=
  if c = '"' ∨ c = '\\' ∨ c = '/' then some c
  else if c = 'b' then some '\x08'
  else if c = 'f' then some '\x0c'
  else if c = 'n' then some '\n'
  else if c = 'r' then some '\r'
  else if c = 't' then some '\t'
  else none

/--
The units of a string up to its closing quote, and the text behind the quote.  A unit is a character
or, for an escape, the number it gives.
-/
def stringUnits : List Char → Option (List (Char ⊕ Nat) × List Char)
  | [] => none
  | '"' :: rest => some ([], rest)
  | '\\' :: 'u' :: a :: b :: c :: d :: rest => do
      let n ← Text.digits? 16 [a, b, c, d]
      let (units, rest) ← stringUnits rest
      return (.inr n :: units, rest)
  | '\\' :: e :: rest => do
      let c ← simpleEscape? e
      let (units, rest) ← stringUnits rest
      return (.inl c :: units, rest)
  | c :: rest =>
      if c.toNat < 0x20 then none
      else (stringUnits rest).map fun (units, rest) => (.inl c :: units, rest)

/-- The characters that the units stand for: two paired surrogates are one character. -/
def unitsText : List (Char ⊕ Nat) → Option (List Char)
  | [] => some []
  | .inl c :: units => (unitsText units).map (c :: ·)
  | .inr high :: .inr low :: units =>
      if isHighSurrogate high then
        if isLowSurrogate low then
          (unitsText units).map
            (Char.ofNat (0x10000 + 0x400 * (high - 0xD800) + (low - 0xDC00)) :: ·)
        else none
      else if isLowSurrogate high then none
      else (unitsText (.inr low :: units)).map (Char.ofNat high :: ·)
  | .inr n :: units =>
      if isHighSurrogate n ∨ isLowSurrogate n then none
      else (unitsText units).map (Char.ofNat n :: ·)

def stringBody (cs : List Char) : Option (Option String × List Char) :=
  (stringUnits cs).map fun (units, rest) => ((unitsText units).map String.ofList, rest)

def literal? (cs : List Char) : Option (Json × List Char) :=
  match cs with
  | 'n' :: 'u' :: 'l' :: 'l' :: rest => some (.null, rest)
  | 't' :: 'r' :: 'u' :: 'e' :: rest => some (.bool true, rest)
  | 'f' :: 'a' :: 'l' :: 's' :: 'e' :: rest => some (.bool false, rest)
  | _ => none

mutual

def value : Nat → List Char → Option (Json × List Char)
  | 0, _ => none
  | fuel + 1, cs =>
      match skipBlanks cs with
      | '"' :: rest => (stringBody rest).map fun (s, rest) => (.string s, rest)
      | '[' :: rest =>
          match skipBlanks rest with
          | ']' :: rest => some (.array [], rest)
          | rest => (elements fuel rest).map fun (items, rest) => (.array items, rest)
      | '\x7b' :: rest =>
          match skipBlanks rest with
          | '\x7d' :: rest => some (.object [], rest)
          | rest => (members fuel rest).map fun (fields, rest) => (.object fields, rest)
      | cs =>
          match literal? cs with
          | some found => some found
          | none => (spanNumber cs).map fun (token, rest) => (.number (String.ofList token), rest)

def elements : Nat → List Char → Option (List Json × List Char)
  | 0, _ => none
  | fuel + 1, cs => do
      let (item, cs) ← value fuel cs
      match skipBlanks cs with
      | ']' :: rest => return ([item], rest)
      | ',' :: rest =>
          let (items, rest) ← elements fuel rest
          return (item :: items, rest)
      | _ => none

def members : Nat → List Char → Option (List (Option String × Json) × List Char)
  | 0, _ => none
  | fuel + 1, cs =>
      match skipBlanks cs with
      | '"' :: cs => do
          let (name, cs) ← stringBody cs
          match skipBlanks cs with
          | ':' :: cs =>
              let (item, cs) ← value fuel cs
              match skipBlanks cs with
              | '\x7d' :: rest => return ([(name, item)], rest)
              | ',' :: rest =>
                  let (fields, rest) ← members fuel rest
                  return ((name, item) :: fields, rest)
              | _ => none
          | _ => none
      | _ => none

end

def ofChars? (cs : List Char) : Option Json :=
  match value (cs.length + 1) cs with
  | some (json, rest) => if (skipBlanks rest).isEmpty then some json else none
  | none => none

def ofText? (s : String) : Option Json := ofChars? s.toList

end PolicyRouting.Json
