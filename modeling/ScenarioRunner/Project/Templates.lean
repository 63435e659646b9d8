import ScenarioRunner.Project.Path
import ScenarioRunner.Text.Search

/-!
# Search templates

Templates say where the step definitions of a feature file are looked for.  In
a template `[filepath]` stands for the path of the feature file without its
extension.  A template with `[filepart]` stands for several patterns, one for
each start of that path, the shortest first.  What is put in for a placeholder
means nothing but itself in a pattern.
-/

namespace ScenarioRunner.Templates

/-- The templates in use if there are no others. -/
def standard : List String :=
  ["cypress/e2e/[filepath]/**/*.rs", "cypress/e2e/[filepath].rs",
    "cypress/support/step_definitions/**/*.rs"]

/-- Whether a character has a meaning in patterns. -/
def isPatternSign (char : Char) : Bool :=
  "*?[]\x7B\x7D!".toList.contains char

/-- A text with a backslash before every character that has a meaning in
patterns. -/
def escape (text : List Char) : List Char :=
  text.flatMap fun char =>
    if isPatternSign char then ['\\', char] else [char]

/-- What `[filepath]` stands for, given the root of the project and the path of
a feature file, which may be below the root or relative to it. -/
def filepath (root feature : String) : List Char :=
  escape (Path.withSlashes
    (Path.withoutExtension (Path.relativeTo root feature))).toList

/-- What `[filepart]` stands for: the starts of a path. -/
def fileparts (filepath : List Char) : List String :=
  let parts := Path.parts filepath
  (List.range parts.length).map fun index =>
    String.ofList (Path.ofParts (parts.take (index + 1)))

/-- The patterns that a template stands for. -/
def expand (filepath : List Char) (template : String) : List String :=
  let template :=
    Text.replace "[filepath]" (String.ofList filepath) template
  if Text.contains template "[filepart]" then
    (fileparts filepath).map (Text.replace "[filepart]" · template)
  else [template]

/-- The patterns that templates stand for, of equal ones the first. -/
def patterns (templates : List String) (root feature : String) :
    List String :=
  (templates.flatMap (expand (filepath root feature))).eraseDups

end ScenarioRunner.Templates
