import ScenarioRunner.Message.Json
import ScenarioRunner.Pickle.Basic

/-!
# Documents and pickles as JSON

The members of every object, in the order in which they are written.  A
member that stands for something absent is left out.  Backgrounds and examples
carry neither a name nor a description, which are written as empty.
-/

namespace ScenarioRunner

open Message (Json)

variable {Id : Type} [Identifier Id]

/-- The language of all feature files. -/
def languageJson : Json := .text "en"

def Location.json (location : Location) : Json :=
  .object (("line", .number location.line) ::
    Json.optional "column" (location.column.map .number))

def Tag.json (tag : Tag Id) : Json :=
  .object [
    ("location", tag.location.json),
    ("name", .text tag.name),
    ("id", Identifier.json tag.id)]

def TableRow.json (row : TableRow Id) : Json :=
  .object [
    ("id", Identifier.json row.id),
    ("location", row.location.json),
    ("cells", .list (row.cells.map fun cell =>
      .object [("location", row.location.json), ("value", .text cell)]))]

def StepTable.json (table : StepTable Id) : Json :=
  .object [
    ("location", table.location.json),
    ("rows", .list (table.rows.map (·.json)))]

def DocString.json (docString : DocString) : Json :=
  .object [
    ("location", docString.location.json),
    ("content", .text docString.content),
    ("delimiter", .text "\"\"\"")]

def StepKind.json : StepKind → Json
  | .context => .text "Context"
  | .action => .text "Action"
  | .outcome => .text "Outcome"

def Step.json (step : Step Id) : Json :=
  .object ([
    ("id", Identifier.json step.id),
    ("location", step.location.json),
    ("keyword", .text step.keyword),
    ("keywordType", step.kind.json),
    ("text", .text step.text)] ++
    Json.optional "docString" (step.docString.map (·.json)) ++
    Json.optional "dataTable" (step.table.map (·.json)))

def Background.json (background : Background Id) : Json :=
  .object [
    ("id", Identifier.json background.id),
    ("location", background.location.json),
    ("keyword", .text background.keyword),
    ("name", .text ""),
    ("description", .text ""),
    ("steps", .list (background.steps.map (·.json)))]

def Examples.json (examples : Examples Id) : Json :=
  .object ([
    ("id", Identifier.json examples.id),
    ("location", examples.location.json),
    ("tags", .list (examples.tags.map (·.json))),
    ("keyword", .text examples.keyword),
    ("name", .text ""),
    ("description", .text "")] ++
    Json.optional "tableHeader" (examples.header.map (·.json)) ++
    [("tableBody", .list (examples.body.map (·.json)))])

def Scenario.json (scenario : Scenario Id) : Json :=
  .object [
    ("id", Identifier.json scenario.id),
    ("location", scenario.location.json),
    ("tags", .list (scenario.tags.map (·.json))),
    ("keyword", .text scenario.keyword),
    ("name", .text scenario.name),
    ("description", .text scenario.description),
    ("steps", .list (scenario.steps.map (·.json))),
    ("examples", .list (scenario.examples.map (·.json)))]

def RuleChild.json : RuleChild Id → Json
  | .background value => .object [("background", value.json)]
  | .scenario value => .object [("scenario", value.json)]

def Rule.json (rule : Rule Id) : Json :=
  .object [
    ("id", Identifier.json rule.id),
    ("location", rule.location.json),
    ("tags", .list (rule.tags.map (·.json))),
    ("keyword", .text rule.keyword),
    ("name", .text rule.name),
    ("description", .text rule.description),
    ("children", .list (rule.children.map (·.json)))]

def FeatureChild.json : FeatureChild Id → Json
  | .background value => .object [("background", value.json)]
  | .scenario value => .object [("scenario", value.json)]
  | .rule value => .object [("rule", value.json)]

def Feature.json (feature : Feature Id) : Json :=
  .object [
    ("location", feature.location.json),
    ("tags", .list (feature.tags.map (·.json))),
    ("language", languageJson),
    ("keyword", .text feature.keyword),
    ("name", .text feature.name),
    ("description", .text feature.description),
    ("children", .list (feature.children.map (·.json)))]

/-- Comments are not kept, so the list of comments is empty. -/
def Document.json (document : Document Id) : Json :=
  .object (("uri", .text document.uri) ::
    Json.optional "feature" (document.feature.map (·.json)) ++
    [("comments", .list [])])

/-- The rows of a table of a pickle. -/
def tableRowsJson (rows : List (List String)) : Json :=
  .list (rows.map fun cells =>
    .object [("cells", .list (cells.map fun cell =>
      .object [("value", .text cell)]))])

def PickleArgument.json (argument : PickleArgument) : Json :=
  .object (
    Json.optional "docString" (argument.docString.map fun content =>
      .object [("content", .text content)]) ++
    Json.optional "dataTable" (argument.table.map fun rows =>
      .object [("rows", tableRowsJson rows)]))

def PickleStep.json (step : PickleStep Id) : Json :=
  .object ([
    ("id", Identifier.json step.id),
    ("text", .text step.text)] ++
    Json.optional "argument" (step.argument.map (·.json)) ++ [
    ("astNodeIds", .list (step.nodeIds.map Identifier.json)),
    ("type", step.kind.json)])

def PickleTag.json (tag : PickleTag Id) : Json :=
  .object [
    ("name", .text tag.name),
    ("astNodeId", Identifier.json tag.nodeId)]

def Pickle.json (pickle : Pickle Id) : Json :=
  .object [
    ("id", Identifier.json pickle.id),
    ("uri", .text pickle.uri),
    ("name", .text pickle.name),
    ("language", languageJson),
    ("steps", .list (pickle.steps.map (·.json))),
    ("tags", .list (pickle.tags.map (·.json))),
    ("astNodeIds", .list (pickle.nodeIds.map Identifier.json))]

end ScenarioRunner
