import PolicyRouting.Text.Numeral

/-!
# JSON values

A number is kept as the text of its token, so that reading loses nothing; a
string whose escapes leave a surrogate unpaired denotes no text and is kept
as such.  An object keeps its members in order, repeated names included.

A record is an object, whose members may come in any order, or an array of
its fields in their order.  In an object an unknown member is skipped, a
repeated field is refused, and every name has to denote a text; in an array
there may be no more items than fields.  Nothing is converted: a number is
never read out of a string.
-/

namespace PolicyRouting

inductive Json where
  | null
  | bool (b : Bool)
  | number (token : String)
  | string (text : Option String)
  | array (items : List Json)
  | object (members : List (Option String × Json))
  deriving Repr, Inhabited

namespace Json

def text (s : String) : Json := .string (some s)

def nat (n : Nat) : Json := .number (String.ofList (Nat.toDigits 10 n))

def texts (ss : List String) : Json := .array (ss.map text)

def record (members : List (String × Json)) : Json :=
  .object (members.map fun (name, value) => (some name, value))

def ofOption {α : Type} (write : α → Json) : Option α → Json
  | none => .null
  | some a => write a

def text? : Json → Option String
  | .string s => s
  | _ => none

def bool? : Json → Option Bool
  | .bool b => some b
  | _ => none

def array? : Json → Option (List Json)
  | .array items => some items
  | _ => none

/-- An integer token without a sign, below the bound. -/
def natBelow? (bound : Nat) : Json → Option Nat
  | .number token =>
      if token.toList.all Char.isDigit then
        (Text.digits? 10 token.toList).filter (· < bound)
      else none
  | _ => none

def uint8? (json : Json) : Option UInt8 := (json.natBelow? UInt8.size).map UInt8.ofNat
def uint16? (json : Json) : Option UInt16 := (json.natBelow? UInt16.size).map UInt16.ofNat
def uint32? (json : Json) : Option UInt32 := (json.natBelow? UInt32.size).map UInt32.ofNat
def uint64? (json : Json) : Option UInt64 := (json.natBelow? UInt64.size).map UInt64.ofNat

def listOf? {α : Type} (read : Json → Option α) (json : Json) : Option (List α) :=
  json.array?.bind fun items => items.mapM read

def texts? : Json → Option (List String) := listOf? text?

def nullable? {α : Type} (read : Json → Option α) : Json → Option (Option α)
  | .null => some none
  | json => (read json).map some

/--
One of some named values.  The name may also be the only member of an object, whose value is then
null.
-/
def oneOf? {α : Type} (name : α → String) (all : List α) (json : Json) : Option α :=
  let named? := fun s => all.find? fun a => name a = s
  match json with
  | .string (some s) => named? s
  | .object [(some s, .null)] => named? s
  | _ => none

inductive Field where
  | given (json : Json)
  /-- The object has no member of the name. -/
  | unnamed
  /-- The array has too few items. -/
  | beyond
  deriving Repr, Inhabited

/-- The members of a name; `none` if a member's name denotes no text. -/
def membersNamed? (name : String) (members : List (Option String × Json)) : Option (List Json) :=
  if members.any (·.1.isNone) then none
  else some ((members.filter fun m => m.1 = some name).map (·.2))

def fieldNamed? (members : List (Option String × Json)) (name : String) : Option Field :=
  match membersNamed? name members with
  | some [] => some .unnamed
  | some [json] => some (.given json)
  | _ => none

def fieldsInOrder : Nat → List Json → List Field
  | 0, _ => []
  | count + 1, [] => .beyond :: fieldsInOrder count []
  | count + 1, json :: items => .given json :: fieldsInOrder count items

def fields? (names : List String) : Json → Option (List Field)
  | .object members => names.mapM (fieldNamed? members)
  | .array items =>
      if names.length < items.length then none else some (fieldsInOrder names.length items)
  | _ => none

namespace Field

def required {α : Type} (read : Json → Option α) : Field → Option α
  | given json => read json
  | unnamed | beyond => none

def orElse {α : Type} (default : α) (read : Json → Option α) : Field → Option α
  | given json => read json
  | unnamed | beyond => some default

/-- A field that may be null, and missing where the fields have names. -/
def optional {α : Type} (read : Json → Option α) : Field → Option (Option α)
  | given json => json.nullable? read
  | unnamed => some none
  | beyond => none

end Field

/-- The tag of a value and what it carries: a member for each, or an array of the two. -/
def tagged? (tag content : String) (json : Json) : Option (String × Option Json) :=
  match json with
  | .array [name, carried] => (tagName? name).map fun s => (s, some carried)
  | .object members => do
      let name ← fieldNamed? members tag
      let carried ← fieldNamed? members content
      match name, carried with
      | .given name, .given carried => (tagName? name).map fun s => (s, some carried)
      | .given name, _ => (tagName? name).map fun s => (s, none)
      | _, _ => none
  | _ => none
where
  tagName? : Json → Option String
    | .string s => s
    | .object [(some s, .null)] => some s
    | _ => none

def taggedRecord (tag content : String) (name : String) (carried : Option Json) : Json :=
  record ((tag, text name) :: (carried.map fun json => (content, json)).toList)

end Json

end PolicyRouting
