import ScenarioRunner.Expression.Parser
import ScenarioRunner.Parameter.Registry

/-!
# Patterns of expressions

An expression expands to a pattern that matches whole texts.  Every
placeholder becomes the pattern of its parameter type.  If that pattern has
capture groups outside of repetitions, each of these is renamed after the
placeholder; else the whole pattern becomes one group without a name.

`placeholderGroups` says which groups belong to which placeholder: a renamed
group to the placeholder in its name, any other to the placeholder after that
of the group before it.
-/

namespace ScenarioRunner.Expression

open Regex

/-- Whether a pattern has a capture group outside of its repetitions. -/
def hasOpenGroup : Node → Bool
  | .seq first second | .alt first second =>
      hasOpenGroup first || hasOpenGroup second
  | .group _ _ _ => true
  | .empty | .oneOf _ | .anchor _ | .repeat _ _ _ _ => false

/-- The name of a renamed group: its placeholder and its number there. -/
def groupName (placeholder number : Nat) : String :=
  s!"__{placeholder}_{number}"

/-- A pattern with the groups outside of its repetitions renamed, counting
from a number; and the number after them. -/
def renameGroups (placeholder : Nat) : Node → Nat → Node × Nat
  | .seq first second, number =>
      let (first, number) := renameGroups placeholder first number
      let (second, number) := renameGroups placeholder second number
      (.seq first second, number)
  | .alt first second, number =>
      let (first, number) := renameGroups placeholder first number
      let (second, number) := renameGroups placeholder second number
      (.alt first second, number)
  | .group index _ body, number =>
      let (body, next) := renameGroups placeholder body (number + 1)
      (.group index (some (groupName placeholder number)) body, next)
  | node, number => (node, number)

/-- The pattern of a placeholder, after so many groups. -/
def placeholderNode (placeholder groupsBefore : Nat) (pattern : Node) : Node :=
  if hasOpenGroup pattern then
    (renameGroups placeholder (pattern.shift groupsBefore) 0).1
  else .group (groupsBefore + 1) none (pattern.shift (groupsBefore + 1))

/-- The pattern of written text. -/
def textNode (written : List Char) : Node := .text (unescape written)

/-- The pattern of text that may be left out. -/
def optionalNode (written : List Char) : Node :=
  .repeat (textNode written) 0 (some 1) true

/-- The pattern of a part of an alternative. -/
def Alternative.node : Alternative → Node
  | .text written => textNode written
  | .optional written => optionalNode written

/-- The highest group number of a pattern. -/
def lastGroup (node : Node) : Nat :=
  node.groups.foldl (fun highest (index, _) => max highest index) 0

/-- The parameter type of a placeholder, if there is one. -/
abbrev TypeLookup := String → Option ParameterType

/-- The patterns of segments, after so many placeholders and groups.  A
placeholder of an unknown type matches nothing. -/
def segmentNodes (lookup : TypeLookup) : Nat → Nat → List Segment → List Node
  | _, _, [] => []
  | placeholders, groupsBefore, segment :: later =>
      match segment with
      | .text written | .blanks written =>
          textNode written :: segmentNodes lookup placeholders groupsBefore later
      | .optional written =>
          optionalNode written ::
            segmentNodes lookup placeholders groupsBefore later
      | .alternation alternatives =>
          .choice (alternatives.map fun parts =>
              .sequence (parts.map Alternative.node)) ::
            segmentNodes lookup placeholders groupsBefore later
      | .parameter name =>
          let pattern :=
            match lookup name with
            | some type => type.pattern.root
            | none => .oneOf .empty
          let node := placeholderNode placeholders groupsBefore pattern
          node ::
            segmentNodes lookup (placeholders + 1)
              (max groupsBefore (lastGroup node)) later

/-- The pattern of a whole expression. -/
def expand (lookup : TypeLookup) (segments : List Segment) : Node :=
  .sequence
    (.anchor .textStart :: segmentNodes lookup 0 0 segments ++
      [.anchor .textEnd])

/-- The placeholder that a group name gives, if it gives one. -/
def placeholderOfName? (name : String) : Option Nat :=
  match name.toList with
  | '_' :: '_' :: rest =>
      if rest.contains '_' then
        let number := String.ofList (rest.takeWhile (· != '_'))
        match Number.readInteger (.unsigned 64) number with
        | .ok value => some value.toNat
        | .error _ => none
      else none
  | _ => none

/-- The placeholder of each group, given the one that is due next. -/
def groupOwners : Nat → List (Nat × Option String) → List (Nat × Nat)
  | _, [] => []
  | due, (index, name) :: later =>
      let owner := (name.bind placeholderOfName?).getD due
      (owner, index) :: groupOwners (owner + 1) later

/-- The groups of each placeholder, in order. -/
def placeholderGroups (node : Node) (count : Nat) : List (List Nat) :=
  let owners := groupOwners 0 node.groups
  (List.range count).map fun placeholder =>
    (owners.filter (·.1 == placeholder)).map (·.2)

end ScenarioRunner.Expression
