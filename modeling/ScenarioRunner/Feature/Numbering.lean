import ScenarioRunner.Feature.Document

/-!
# Numbering feature documents

Identifiers are consecutive numbers.  A node draws its number before or after
those below it, as each function says: a step after the rows of its table,
examples after their rows, a rule after its children, every other node before
what it holds.  The tags of a node come directly after its own number, those
of a feature after all its children.
-/

namespace ScenarioRunner

/-- A computation that draws numbers; its state is the next number. -/
abbrev Numbering := StateM Nat

namespace Numbering

/-- Draw the next number. -/
def fresh : Numbering Nat := modifyGet fun next => (next, next + 1)

@[simp] theorem run_fresh (next : Nat) : fresh.run next = (next, next + 1) :=
  rfl

end Numbering

open ScenarioRunner.Numbering (fresh)

def Tag.number (tag : Tag Unit) : Numbering (Tag Nat) := do
  let id ← fresh
  return { location := tag.location, name := tag.name, id }

def TableRow.number (row : TableRow Unit) : Numbering (TableRow Nat) := do
  let id ← fresh
  return { id, location := row.location, cells := row.cells }

def StepTable.number (table : StepTable Unit) : Numbering (StepTable Nat) := do
  let rows ← table.rows.mapM TableRow.number
  return { location := table.location, rows }

/-- Number the rows of the table, then the step. -/
def Step.number (step : Step Unit) : Numbering (Step Nat) := do
  let table ← step.table.mapM StepTable.number
  let id ← fresh
  return {
    id
    location := step.location
    keyword := step.keyword
    kind := step.kind
    text := step.text
    docString := step.docString
    table }

/-- Number the background, then its steps. -/
def Background.number (background : Background Unit) :
    Numbering (Background Nat) := do
  let id ← fresh
  let steps ← background.steps.mapM Step.number
  return {
    id
    location := background.location
    keyword := background.keyword
    steps }

/-- Number the rows, then the examples, then their tags. -/
def Examples.number (examples : Examples Unit) :
    Numbering (Examples Nat) := do
  let header ← examples.header.mapM TableRow.number
  let body ← examples.body.mapM TableRow.number
  let id ← fresh
  let tags ← examples.tags.mapM Tag.number
  return {
    id
    location := examples.location
    tags
    keyword := examples.keyword
    header, body }

/-- Number the scenario, its tags, its steps and its examples. -/
def Scenario.number (scenario : Scenario Unit) :
    Numbering (Scenario Nat) := do
  let id ← fresh
  let tags ← scenario.tags.mapM Tag.number
  let steps ← scenario.steps.mapM Step.number
  let examples ← scenario.examples.mapM Examples.number
  return {
    id
    location := scenario.location
    tags
    keyword := scenario.keyword
    name := scenario.name
    description := scenario.description
    steps, examples }

def RuleChild.number : RuleChild Unit → Numbering (RuleChild Nat)
  | .background value => .background <$> value.number
  | .scenario value => .scenario <$> value.number

/-- Number the children, then the rule, then its tags. -/
def Rule.number (rule : Rule Unit) : Numbering (Rule Nat) := do
  let children ← rule.children.mapM RuleChild.number
  let id ← fresh
  let tags ← rule.tags.mapM Tag.number
  return {
    id
    location := rule.location
    tags
    keyword := rule.keyword
    name := rule.name
    description := rule.description
    children }

def FeatureChild.number : FeatureChild Unit → Numbering (FeatureChild Nat)
  | .background value => .background <$> value.number
  | .scenario value => .scenario <$> value.number
  | .rule value => .rule <$> value.number

/-- Number the children, then the tags of the feature. -/
def Feature.number (feature : Feature Unit) : Numbering (Feature Nat) := do
  let children ← feature.children.mapM FeatureChild.number
  let tags ← feature.tags.mapM Tag.number
  return {
    location := feature.location
    tags
    keyword := feature.keyword
    name := feature.name
    description := feature.description
    children }

/-- Number the nodes of a document. -/
def Document.number (document : Document Unit) :
    Numbering (Document Nat) := do
  let feature ← document.feature.mapM Feature.number
  return { uri := document.uri, feature }

end ScenarioRunner
