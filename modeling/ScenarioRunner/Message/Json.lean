import ScenarioRunner.Text.Quoted

/-!
# JSON values and their text

Messages are written as JSON.  The members of an object keep the order in
which they are given, a number is a natural one, and an identifier is written
as a string.  The text has no white space between its parts.
-/

namespace ScenarioRunner.Message

/-- A JSON value. -/
inductive Json where
  | flag (value : Bool)
  | number (value : Nat)
  | text (value : String)
  /-- The number of a node or message, written as a string. -/
  | identifier (value : Nat)
  | list (items : List Json)
  | object (members : List (String × Json))

namespace Json

/-- How a character is written inside a string. -/
def escapedChar (char : Char) : List Char :=
  match char with
  | '"' => ['\\', '"']
  | '\\' => ['\\', '\\']
  | '\x08' => ['\\', 'b']
  | '\x0C' => ['\\', 'f']
  | '\n' => ['\\', 'n']
  | '\r' => ['\\', 'r']
  | '\t' => ['\\', 't']
  | char =>
      if char.toNat < 0x10 then
        ['\\', 'u', '0', '0', '0'] ++ Text.hexadecimal char.toNat
      else if char.toNat < 0x20 then
        ['\\', 'u', '0', '0'] ++ Text.hexadecimal char.toNat
      else [char]

/-- A string with its quotes. -/
def quotedString (text : String) : List Char :=
  '"' :: text.toList.flatMap escapedChar ++ ['"']

/-- The decimal digits of a number. -/
def decimal (number : Nat) : List Char :=
  (toString number).toList

mutual

/-- The characters of a value. -/
def characters : Json → List Char
  | .flag true => "true".toList
  | .flag false => "false".toList
  | .number value => decimal value
  | .text value => quotedString value
  | .identifier value => '"' :: decimal value ++ ['"']
  | .list items => '[' :: itemCharacters items
  | .object members => '\x7B' :: memberCharacters members

/-- The characters of the items of a list and of its closing bracket. -/
def itemCharacters : List Json → List Char
  | [] => [']']
  | [last] => characters last ++ [']']
  | first :: second :: others =>
      characters first ++ ',' :: itemCharacters (second :: others)

/-- The characters of the members of an object and of its closing brace. -/
def memberCharacters : List (String × Json) → List Char
  | [] => ['\x7D']
  | [(name, value)] =>
      quotedString name ++ ':' :: characters value ++ ['\x7D']
  | (name, value) :: second :: others =>
      quotedString name ++
        ':' :: characters value ++ ',' :: memberCharacters (second :: others)

end

/-- The text of a value. -/
def render (value : Json) : String :=
  String.ofList value.characters

/-- A value as a line of text; the text of a value has no line breaks. -/
def line (value : Json) : String :=
  value.render ++ "\n"

mutual

/-- A value with a name in place of the number of each identifier. -/
def nameIdentifiers (name : Nat → String) : Json → Json
  | .identifier value => .text (name value)
  | .list items => .list (nameItems name items)
  | .object members => .object (nameMembers name members)
  | .flag value => .flag value
  | .number value => .number value
  | .text value => .text value

/-- The items of a list with names for identifiers. -/
def nameItems (name : Nat → String) : List Json → List Json
  | [] => []
  | item :: items => nameIdentifiers name item :: nameItems name items

/-- The members of an object with names for identifiers. -/
def nameMembers (name : Nat → String) :
    List (String × Json) → List (String × Json)
  | [] => []
  | (key, value) :: members =>
      (key, nameIdentifiers name value) :: nameMembers name members

end

/-- A member that is left out if it has no value. -/
def optional (name : String) (value : Option Json) : List (String × Json) :=
  value.toList.map ((name, ·))

@[simp] theorem optional_none (name : String) : optional name none = [] := rfl

@[simp] theorem optional_some (name : String) (value : Json) :
    optional name (some value) = [(name, value)] := rfl

end Json

end ScenarioRunner.Message

namespace ScenarioRunner

open Message (Json)

/-- Types of identifiers and the way they are written. -/
class Identifier (Id : Type) where
  json : Id → Json

instance : Identifier Nat := ⟨Json.identifier⟩

instance : Identifier String := ⟨Json.text⟩

end ScenarioRunner
