import ScenarioRunner.Feature.Numbering
import ScenarioRunner.Pickle.Basic
import ScenarioRunner.Pickle.Placeholder

/-!
# Pickles of a document

A scenario without examples gives one pickle, one with examples a pickle for
every row below the header of each of its tables.  The steps of the
backgrounds in force come first and keep their placeholders.  Tags are
inherited from the feature, the rule, the scenario and the examples.
-/

namespace ScenarioRunner

open ScenarioRunner.Numbering (fresh)

/-- A tag as its pickles carry it. -/
def Tag.inherited (tag : Tag Nat) : PickleTag Nat :=
  { name := tag.name, nodeId := tag.id }

/-- The argument of a step with values in place of placeholders. -/
def Step.pickleArgument (values : Placeholder.Values) (step : Step Nat) :
    Option PickleArgument :=
  if step.docString.isSome || step.table.isSome then
    some {
      docString := step.docString.map fun found =>
        Placeholder.replace values found.content
      table := step.table.map fun table =>
        table.rows.map fun row =>
          row.cells.map (Placeholder.replace values) }
  else none

/-- A step as a pickle holds it, with the row of examples it is made for. -/
def Step.pickle (values : Placeholder.Values) (row : Option Nat)
    (step : Step Nat) : Numbering (PickleStep Nat) := do
  let id ← fresh
  return {
    id
    text := Placeholder.replace values step.text
    argument := step.pickleArgument values
    nodeIds := step.id :: row.toList
    kind := step.kind }

/-- What the pickles of a scenario take from the places around it. -/
structure Surroundings where
  uri : String
  /-- The steps of the backgrounds in force. -/
  background : List (Step Nat) := []
  /-- The tags of the feature and of the rule. -/
  tags : List (Tag Nat) := []
  deriving DecidableEq, Repr, Inhabited

namespace Surroundings

/-- The surroundings behind a background. -/
def within (around : Surroundings) (background : Background Nat) :
    Surroundings :=
  { around with background := around.background ++ background.steps }

/-- The surroundings below a node with tags. -/
def tagged (around : Surroundings) (tags : List (Tag Nat)) : Surroundings :=
  { around with tags := around.tags ++ tags }

end Surroundings

namespace Scenario

/-- The pickle of a scenario, made for a row of examples if there is one. -/
def pickle (around : Surroundings) (scenario : Scenario Nat)
    (values : Placeholder.Values) (row : Option Nat) (tags : List (Tag Nat)) :
    Numbering (Pickle Nat) := do
  let before ← around.background.mapM (Step.pickle [] none)
  let own ← scenario.steps.mapM (Step.pickle values row)
  let id ← fresh
  return {
    id
    uri := around.uri
    name := Placeholder.replace values scenario.name
    steps := before ++ own
    tags := (around.tags ++ scenario.tags ++ tags).map Tag.inherited
    nodeIds := scenario.id :: row.toList }

/-- The pickles of the rows of one table of examples. -/
def examplesPickles (around : Surroundings) (scenario : Scenario Nat)
    (examples : Examples Nat) : Numbering (List (Pickle Nat)) :=
  match examples.header with
  | none => pure []
  | some header =>
      examples.body.mapM fun row =>
        scenario.pickle around (header.cells.zip row.cells) (some row.id)
          examples.tags

/-- The pickles of a scenario. -/
def pickles (around : Surroundings) (scenario : Scenario Nat) :
    Numbering (List (Pickle Nat)) :=
  match scenario.examples with
  | [] => do return [← scenario.pickle around [] none []]
  | examples => do
      let found ← examples.mapM (scenario.examplesPickles around)
      return found.flatten

end Scenario

/-- The pickles of the children of a rule. -/
def RuleChild.pickles :
    Surroundings → List (RuleChild Nat) → Numbering (List (Pickle Nat))
  | _, [] => pure []
  | around, .background value :: others =>
      pickles (around.within value) others
  | around, .scenario value :: others => do
      let first ← value.pickles around
      return first ++ (← pickles around others)

/-- The pickles of the children of a feature. -/
def FeatureChild.pickles :
    Surroundings → List (FeatureChild Nat) → Numbering (List (Pickle Nat))
  | _, [] => pure []
  | around, .background value :: others =>
      pickles (around.within value) others
  | around, .scenario value :: others => do
      let first ← value.pickles around
      return first ++ (← pickles around others)
  | around, .rule value :: others => do
      let first ← RuleChild.pickles (around.tagged value.tags) value.children
      return first ++ (← pickles around others)

/-- The pickles of a document, in the order of the text. -/
def Document.pickles (document : Document Nat) :
    Numbering (List (Pickle Nat)) :=
  match document.feature with
  | none => pure []
  | some feature =>
      FeatureChild.pickles { uri := document.uri, tags := feature.tags }
        feature.children

end ScenarioRunner
