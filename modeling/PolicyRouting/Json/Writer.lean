import PolicyRouting.Json.Basic
import PolicyRouting.Text.Numeral

/-!
# Writing JSON text

Two layouts: compact, without any blank, and indented by two blanks for each
level.  An empty array or object is written without a line break in either.
Quotes, backslashes and control characters are escaped; all else is written
as it is.
-/

namespace PolicyRouting.Json

def escaped (c : Char) : List Char :=
  if c = '"' then ['\\', '"']
  else if c = '\\' then ['\\', '\\']
  else if c = '\x08' then ['\\', 'b']
  else if c = '\x0c' then ['\\', 'f']
  else if c = '\n' then ['\\', 'n']
  else if c = '\r' then ['\\', 'r']
  else if c = '\t' then ['\\', 't']
  else if c.toNat < 0x20 then ['\\', 'u'] ++ Text.padded 16 4 c.toNat
  else [c]

def quoted (s : String) : List Char := '"' :: s.toList.flatMap escaped ++ ['"']

/-- A string that denotes no text is written as an unpaired surrogate. -/
def quotedOption : Option String → List Char
  | some s => quoted s
  | none => ['"', '\\', 'u', 'd', '8', '0', '0', '"']

mutual

def compact : Json → List Char
  | null => ['n', 'u', 'l', 'l']
  | bool true => ['t', 'r', 'u', 'e']
  | bool false => ['f', 'a', 'l', 's', 'e']
  | number token => token.toList
  | string s => quotedOption s
  | array items => '[' :: compactItems items ++ [']']
  | object members => '\x7b' :: compactMembers members ++ ['\x7d']

def compactItems : List Json → List Char
  | [] => []
  | [item] => compact item
  | item :: items => compact item ++ ',' :: compactItems items

def compactMembers : List (Option String × Json) → List Char
  | [] => []
  | [(name, item)] => quotedOption name ++ ':' :: compact item
  | (name, item) :: members =>
      quotedOption name ++ ':' :: compact item ++ ',' :: compactMembers members

end

def toText (json : Json) : String := String.ofList (compact json)

def lineBreak (depth : Nat) : List Char := '\n' :: List.replicate (2 * depth) ' '

mutual

def indented (depth : Nat) : Json → List Char
  | null => ['n', 'u', 'l', 'l']
  | bool true => ['t', 'r', 'u', 'e']
  | bool false => ['f', 'a', 'l', 's', 'e']
  | number token => token.toList
  | string s => quotedOption s
  | array [] => ['[', ']']
  | array items => '[' :: indentedItems (depth + 1) items ++ lineBreak depth ++ [']']
  | object [] => ['\x7b', '\x7d']
  | object members =>
      '\x7b' :: indentedMembers (depth + 1) members ++ lineBreak depth ++ ['\x7d']

def indentedItems (depth : Nat) : List Json → List Char
  | [] => []
  | [item] => lineBreak depth ++ indented depth item
  | item :: items => lineBreak depth ++ indented depth item ++ ',' :: indentedItems depth items

def indentedMembers (depth : Nat) : List (Option String × Json) → List Char
  | [] => []
  | [(name, item)] => lineBreak depth ++ quotedOption name ++ ':' :: ' ' :: indented depth item
  | (name, item) :: members =>
      lineBreak depth ++ quotedOption name ++ ':' :: ' ' :: indented depth item
        ++ ',' :: indentedMembers depth members

end

def toIndentedText (json : Json) : String := String.ofList (indented 0 json)

end PolicyRouting.Json
