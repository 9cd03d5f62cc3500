import PolicyRouting.Json.Basic
import PolicyRouting.Yaml.Scalar

/-!
# Writing YAML text

Values are written in block style with two blanks for each level; the items
of a list stand at the depth of the name they belong to.  An empty list or
object is written as a pair of brackets on the line of its name.
-/

namespace PolicyRouting.Yaml

abbrev Line := List Char

def indentLine (line : Line) : Line := if line.isEmpty then [] else ' ' :: ' ' :: line

/-- Puts the lines behind a name or a dash; those after the first are indented. -/
def behind (lead : Line) : List Line → List Line
  | [] => [lead]
  | first :: rest => (lead ++ ' ' :: first) :: rest.map indentLine

def nameLine (name : Option String) : Line :=
  match stringLines (name.getD "") with
  | line :: _ => line ++ [':']
  | [] => [':']

def member (lead : Line) (value : Json) (lines : List Line) : List Line :=
  match value with
  | .object (_ :: _) => lead :: lines.map indentLine
  | .array (_ :: _) => lead :: lines
  | _ => behind lead lines

mutual

def valueLines : Json → List Line
  | .null => ["null".toList]
  | .bool true => ["true".toList]
  | .bool false => ["false".toList]
  | .number token => [token.toList]
  | .string s => stringLines (s.getD "")
  | .array [] => ["[]".toList]
  | .array (item :: items) => itemsLines (item :: items)
  | .object [] => ["\x7b\x7d".toList]
  | .object (m :: members) => membersLines (m :: members)

def itemsLines : List Json → List Line
  | [] => []
  | item :: items => behind ['-'] (valueLines item) ++ itemsLines items

def membersLines : List (Option String × Json) → List Line
  | [] => []
  | (name, value) :: members =>
      member (nameLine name) value (valueLines value) ++ membersLines members

end

def text (json : Json) : String :=
  String.ofList ((valueLines json).flatMap fun line => line ++ ['\n'])

end PolicyRouting.Yaml
