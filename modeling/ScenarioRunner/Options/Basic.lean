import ScenarioRunner.Project.Templates
import ScenarioRunner.Tag.Expression
import ScenarioRunner.Test.Suite

/-!
# Options

What the command line and the environment decide about a run.
-/

namespace ScenarioRunner

/-- Whether a report is written in colors. -/
inductive Coloring where
  /-- As the terminal decides. -/
  | auto
  | always
  | never
  deriving DecidableEq, Repr, Inhabited

namespace Coloring

/-- The coloring that a text names, whatever its case. -/
def ofText? (text : String) : Option Coloring :=
  match text.toLower with
  | "auto" => some .auto
  | "always" => some .always
  | "never" => some .never
  | _ => none

/-- What to say about a text that names no coloring. -/
def complaint : String := "possible options: auto, always, never"

end Coloring

/-- The options of a run. -/
structure RunOptions where
  /-- The filter of tests. -/
  tags : Option TagExpression := none
  /-- Leave out tests that the tags do not select. -/
  omitFiltered : Bool := false
  /-- Leave out feature files without a test that the tags select. -/
  filterSpecs : Bool := false
  /-- The templates by which step definitions are looked for. -/
  stepDefinitions : List String := Templates.standard
  /-- The patterns of feature files. -/
  specPattern : List String := ["cypress/e2e/**/*.feature"]
  projectRoot : String := "."
  /-- Write messages to a file. -/
  messages : Bool := false
  messagesOutput : String := "cucumber-messages.ndjson"
  interactive : Bool := false
  color : Coloring := .auto
  /-- How often a failing test is run again. -/
  retries : Option Nat := none
  deriving DecidableEq, Repr, Inhabited

namespace RunOptions

/-- The file that messages are written to, if they are. -/
def messagesPath? (options : RunOptions) : Option String :=
  if options.messages then
    some (Path.join options.projectRoot options.messagesOutput)
  else none

/-- How tests are composed if step definitions were looked for as some hints
say. -/
def composeOptions (options : RunOptions) (hints : SearchHints) :
    ComposeOptions where
  omitFiltered := options.omitFiltered
  messagesEnabled := options.messages
  tags := options.tags
  hints := hints
  interactive := options.interactive

end RunOptions

end ScenarioRunner
