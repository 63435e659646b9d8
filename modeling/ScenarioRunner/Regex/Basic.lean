import ScenarioRunner.Regex.Match
import ScenarioRunner.Regex.Reader

/-!
# Regular expressions

A regular expression is its source text together with the tree read from it.
`Regex.compile` is the only way in from text; `find?` and `captures?` give the
leftmost match with its groups.
-/

namespace ScenarioRunner

/-- A compiled regular expression. -/
structure Regex where
  source : String
  root : Regex.Node
  deriving DecidableEq, Repr

namespace Regex

/-- Read a regular expression.  It may be nested to any depth and match by a
program of any size. -/
def compile (source : String) : Except SyntaxError Regex := do
  return ⟨source, ← Reader.read source.toList⟩

/-- The tree of a regular expression is the one its source reads as. -/
theorem compile_eq_ok_iff {source : String} {regex : Regex} :
    compile source = .ok regex ↔
      regex.source = source ∧ Reader.read source.toList = .ok regex.root := by
  obtain ⟨own, root⟩ := regex
  cases outcome : Reader.read source.toList with
  | error error => simp [compile, outcome, bind, Except.bind]
  | ok node =>
      simp [compile, outcome, bind, Except.bind, pure, Except.pure, eq_comm]

/-- Whether a text is a regular expression. -/
def isValid (source : String) : Bool :=
  (compile source).isOk

/-- The regular expression of a source, or one that never matches. -/
def ofSource (source : String) : Regex :=
  match compile source with
  | .ok regex => regex
  | .error _ => ⟨source, .oneOf .empty⟩

/-- The leftmost match in a text. -/
def find? (regex : Regex) (text : List Char) : Option Match :=
  regex.root.findFrom? [] text

/-- The leftmost match at or after a position of a text. -/
def findFrom? (regex : Regex) (text : List Char) (position : Nat) :
    Option Match :=
  let cursor := (Cursor.start text).advance position
  regex.root.findFrom? cursor.before cursor.after

/-- The whole of the leftmost match at or after a position of a text. -/
def spanFrom? (regex : Regex) (text : List Char) (position : Nat) :
    Option Span :=
  (regex.findFrom? text position).map (·.whole)

/-- Whether a text has a match. -/
def isMatch (regex : Regex) (text : String) : Bool :=
  (regex.find? text.toList).isSome

/-- The highest group number. -/
def groupCount (regex : Regex) : Nat :=
  regex.root.groups.foldl (fun highest (index, _) => max highest index) 0

/-- The texts of all groups of the leftmost match, `none` for a group that
took no part. -/
def captures? (regex : Regex) (text : String) :
    Option (List (Option String)) :=
  let chars := text.toList
  (regex.find? chars).map fun found =>
    (List.range regex.groupCount).map fun index =>
      (found.group? (index + 1)).map fun span => String.ofList (span.of chars)

end Regex

end ScenarioRunner
