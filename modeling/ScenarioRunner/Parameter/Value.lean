import ScenarioRunner.Number.Binary64
import ScenarioRunner.Text.Case

/-!
# Values of captured text

What a parameter type makes of the text that it matched.
-/

namespace ScenarioRunner

/-- A value that a step implementation receives. -/
inductive Value where
  /-- An integer of 64 bits. -/
  | long (number : Int)
  /-- An integer of 16 bits. -/
  | short (number : Int)
  /-- An integer of 8 bits. -/
  | byte (number : Int)
  /-- A count of things. -/
  | count (number : Nat)
  /-- A floating-point number, by its bits. -/
  | float (bits : Nat)
  | text (content : String)
  /-- A value that only the host knows how to use. -/
  | other
  deriving DecidableEq, Repr

/-- Turns matched text into a value, or explains why it cannot. -/
abbrev Transformer := String → Except String Value

namespace Transformer

open Number

/-- The text itself. -/
def identity : Transformer := fun text => .ok (.text text)

/-- An integer of a range. -/
def integer (range : IntegerRange) (make : Int → Value) : Transformer :=
  fun text =>
    match readInteger range text with
    | .ok number => .ok (make number)
    | .error error => .error error.message

/-- A floating-point number. -/
def float : Transformer := fun text =>
  match Binary64.read text with
  | .ok bits => .ok (.float bits)
  | .error error => .error error.message

/-- Each occurrence of a backslash and a quote replaced by the quote. -/
def unescapeQuote (quote : Char) : List Char → List Char
  | '\\' :: char :: rest =>
      if char == quote then quote :: unescapeQuote quote rest
      else '\\' :: unescapeQuote quote (char :: rest)
  | char :: rest => char :: unescapeQuote quote rest
  | [] => []

/-- The content of a quoted text: the first character is dropped, and so is
the last if it is the same. -/
def unquote : List Char → List Char
  | [] => []
  | quote :: rest =>
      let inner :=
        if rest.getLast? == some quote then rest.dropLast else rest
      if quote == '"' || quote == '\'' then unescapeQuote quote inner
      else inner

/-- The content of a quoted text. -/
def quotedText : Transformer := fun text =>
  .ok (.text (String.ofList (unquote text.toList)))

/-- The text in capitals. -/
def capitals : Transformer := fun text => .ok (.text (Text.upperCase text))

/-- The number of characters. -/
def characterCount : Transformer := fun text => .ok (.count text.length)

end Transformer

end ScenarioRunner
