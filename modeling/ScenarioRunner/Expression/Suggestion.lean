import ScenarioRunner.Expression.Basic

/-!
# Suggested expressions

An expression is suggested for a step text by putting placeholders in the
place of the words that parameter types match.  From left to right, the match
that starts first is taken, of several the longest.  The types that match
just this span give alternative suggestions.
-/

namespace ScenarioRunner

open Regex

/-- An expression suggested for a step text. -/
structure Suggestion where
  source : String
  /-- A name for the value of each placeholder. -/
  argumentNames : List String
  deriving DecidableEq, Repr

namespace Suggestion

/-- The largest number of suggestions for one text. -/
def limit : Nat := 256

/-- Whether a word may end at a character. -/
def isDelimiter (char : Char) : Bool :=
  Text.isBlank char || Text.isAsciiPunctuation char

/-- Whether a span is not empty and is set off from the rest of a text. -/
def isWordSpan (text : List Char) (span : Span) : Bool :=
  span.start < span.stop &&
    (text.take span.start).getLast?.all isDelimiter &&
    (text.drop span.stop).head?.all isDelimiter

/--
The first match at or after a position that is a word, where `find?` gives the
first match at or after a position.  After a match that is no word the search
goes on one character after its start.  `fuel` bounds the number of matches
tried.
-/
def findWordWithin (find? : Nat → Option Span) (text : List Char) :
    Nat → Nat → Option Span
  | 0, _ => none
  | fuel + 1, position =>
      if text.length < position then none
      else
        match find? position with
        | none => none
        | some span =>
            if isWordSpan text span then some span
            else findWordWithin find? text fuel (span.start + 1)

/-- The first match at or after a position that is a word. -/
def findWord? (find? : Nat → Option Span) (text : List Char)
    (position : Nat) : Option Span :=
  findWordWithin find? text (text.length + 1) position

/-- The first word of a text that the pattern of a type matches. -/
def typeWord? (type : ParameterType) (text : List Char) (position : Nat) :
    Option Span :=
  findWord? (type.pattern.spanFrom? text) text position

/-- The types that suggestions use and whose patterns may stand in a group. -/
def usableTypes (registry : ParameterRegistry) : List ParameterType :=
  registry.suggestedTypes.filter fun type =>
    Regex.isValid s!"(?:{type.regexp})"

/-- Whether a span is better than another: it starts first or is longer. -/
def isBetter (span other : Span) : Bool :=
  span.start < other.start ||
    (span.start == other.start && other.stop < span.stop)

/-- The best span of several, of equal ones the first. -/
def best? : List Span → Option Span
  | [] => none
  | span :: later =>
      match best? later with
      | none => some span
      | some other => if isBetter other span then some other else some span

/-- A span of a text and the types that match just it. -/
structure Slot where
  span : Span
  types : List ParameterType

/-- The next span at or after a position. -/
def nextSlot? (types : List ParameterType) (text : List Char)
    (position : Nat) : Option Slot :=
  let found := types.filterMap fun type =>
    (typeWord? type text position).map fun span => (type, span)
  (best? (found.map (·.2))).map fun span =>
    ⟨span, (found.filter (·.2 == span)).map (·.1)⟩

/-- The spans of a text from a position on; `fuel` bounds their number. -/
def slotsWithin (types : List ParameterType) (text : List Char) :
    Nat → Nat → List Slot
  | 0, _ => []
  | fuel + 1, position =>
      match nextSlot? types text position with
      | none => []
      | some slot => slot :: slotsWithin types text fuel slot.span.stop

/-- The spans of a text from left to right. -/
def slots (types : List ParameterType) (text : List Char) : List Slot :=
  slotsWithin types text (text.length + 1) 0

/-- The literal text before each span and after the last. -/
def literals (text : List Char) : Nat → List Span → List (List Char)
  | position, [] => [text.drop position]
  | position, span :: later =>
      (Span.mk position span.start).of text :: literals text span.stop later

/-- The first choices of one member from each list, in order. -/
def firstChoices {Member : Type} (count : Nat) :
    List (List Member) → List (List Member)
  | [] => [[]]
  | members :: later =>
      let tails := firstChoices count later
      (members.flatMap fun member => tails.map (member :: ·)).take count

/-- Literal text with backslashes before the characters that would mean
something in an expression. -/
def escape (text : List Char) : List Char :=
  text.flatMap fun char =>
    if char == '(' || char == '\x7B' || char == '/' then ['\\', char]
    else [char]

/-- Literal texts with placeholders between them. -/
def interleave : List (List Char) → List ParameterType → List Char
  | [], _ => []
  | literal :: literals, [] => escape literal ++ interleave literals []
  | literal :: literals, type :: types =>
      escape literal ++ '\x7B' :: type.name.toList ++
        '\x7D' :: interleave literals types

/-- Names for the placeholders: a name that comes again gets a number. -/
def numberNames (earlier : List String) : List String → List String
  | [] => []
  | name :: later =>
      let occurrence := earlier.count name + 1
      let numbered := if occurrence = 1 then name else s!"{name}{occurrence}"
      numbered :: numberNames (name :: earlier) later

/-- The expressions suggested for a step text. -/
def generate (registry : ParameterRegistry) (text : String) :
    List Suggestion :=
  let chars := text.toList
  let found := slots (usableTypes registry) chars
  let parts := literals chars 0 (found.map (·.span))
  (firstChoices limit (found.map (·.types))).map fun types =>
    ⟨String.ofList (interleave parts types),
      numberNames [] (types.map (·.name))⟩

end Suggestion

end ScenarioRunner
