import ScenarioRunner.Feature.Numbering
import ScenarioRunner.Registry.Basic
import ScenarioRunner.Test.Missing
import ScenarioRunner.Test.Options

/-!
# Suites of tests

The tests of a feature file: one for each pickle, under the suite of the
feature, those of a rule in a group of their own.  A test consists of slots:
the hooks before, the steps, and the hooks after.  Tests that the tags do not
select are listed without being executable, or left out.

Composing also gives the messages that are known before anything runs.  Every
slot draws an identifier, and the test one after its slots.
-/

namespace ScenarioRunner

/-- A slot of a test, with the identifier of its test step. -/
inductive Slot (Host : Type) where
  | hook (id : Nat) (hook : Hook Host)
  | step (id : Nat) (step : PickleStep Nat)

/-- The identifier of the test step of a slot. -/
def Slot.id {Host : Type} : Slot Host → Nat
  | .hook id _ => id
  | .step id _ => id

/-- What is run for a test. -/
structure Executable (Host : Type) where
  pickle : Pickle Nat
  testCaseId : Nat
  slots : List (Slot Host)

/-- A test; one that the tags exclude is not executable. -/
structure Test (Host : Type) where
  name : String
  options : TestOptions
  executable : Option (Executable Host)

/-- A test, or the tests of a rule. -/
inductive SuiteItem (Host : Type) where
  | test (value : Test Host)
  | group (name : String) (tests : List (Test Host))

/-- The tests of an item. -/
def SuiteItem.tests {Host : Type} : SuiteItem Host → List (Test Host)
  | .test value => [value]
  | .group _ tests => tests

/-- The tests of a feature. -/
structure Suite (Host : Type) where
  name : String
  items : List (SuiteItem Host)

/-- What a feature file comes to: its tests and what they are run with. -/
structure Spec (Host : Type) where
  uri : String
  registry : Registry Host
  suite : Option (Suite Host)
  hints : SearchHints
  interactive : Bool
  messagesEnabled : Bool

/-- All tests, in order. -/
def Spec.tests {Host : Type} (spec : Spec Host) : List (Test Host) :=
  match spec.suite with
  | none => []
  | some suite => suite.items.flatMap SuiteItem.tests

/-- How tests are composed. -/
structure ComposeOptions where
  /-- Leave out tests that the tags do not select. -/
  omitFiltered : Bool := false
  messagesEnabled : Bool := false
  tags : Option TagExpression := none
  hints : SearchHints := {}
  interactive : Bool := false
  deriving DecidableEq, Repr, Inhabited

namespace Compose

variable {Host : Type}

/-- What tests are composed from. -/
structure Setting (Host : Type) where
  registry : Registry Host
  pickles : List (Pickle Nat)
  filter : Option TagExpression
  omitFiltered : Bool

/-- A name, or what stands for an empty one. -/
def nameOr (fallback name : String) : String :=
  if name.isEmpty then fallback else name

/-- The test cases and the tests of some pickles. -/
abbrev Composed (Host : Type) := List (TestCase Nat × Option (Test Host))

/-- The slots of a test, whose identifiers are drawn in order. -/
def slots (registry : Registry Host) (pickle : Pickle Nat) :
    Numbering (List (Slot Host)) := do
  let before ← (registry.hooksFor .before pickle.tagNames).mapM hookSlot
  let steps ← pickle.steps.mapM stepSlot
  let after ← (registry.hooksFor .after pickle.tagNames).mapM hookSlot
  return before ++ steps ++ after
where
  hookSlot (hook : Hook Host) : Numbering (Slot Host) := do
    return .hook (← Numbering.fresh) hook
  stepSlot (step : PickleStep Nat) : Numbering (Slot Host) := do
    return .step (← Numbering.fresh) step

/-- How the message about a test shows a slot. -/
def testStep (registry : Registry Host) : Slot Host → TestStep Nat
  | .hook id hook => { id, hookId := some hook.id }
  | .step id step =>
      { id
        pickleStepId := some step.id
        definitionIds := some ((registry.matching step.text).map (·.id)) }

namespace Setting

/-- Whether the filter selects a pickle. -/
def selects (setting : Setting Host) (pickle : Pickle Nat) : Bool :=
  TagExpression.selects setting.filter pickle.tagNames

/-- The first pickle made from a node. -/
def pickleOf? (setting : Setting Host) (nodeId : Nat) :
    Option (Pickle Nat) :=
  setting.pickles.find? (·.nodeIds.contains nodeId)

/-- The pickles of a scenario: its only one, or those of its examples. -/
def picklesOf (setting : Setting Host) (scenario : Scenario Nat) :
    List (Pickle Nat) :=
  if scenario.examples.isEmpty then (setting.pickleOf? scenario.id).toList
  else
    (scenario.examples.flatMap (·.body)).filterMap fun row =>
      setting.pickleOf? row.id

/-- The test of a pickle. -/
def test (setting : Setting Host) (name : String) (pickle : Pickle Nat) :
    Numbering (TestCase Nat × Option (Test Host)) := do
  let slots ← slots setting.registry pickle
  let id ← Numbering.fresh
  let testCase : TestCase Nat :=
    { id
      pickleId := pickle.id
      steps := slots.map (testStep setting.registry) }
  let options := TestOptions.ofTags pickle.tagNames
  if setting.selects pickle && !pickle.tagNames.contains "@skip" then
    let executable : Executable Host := { pickle, testCaseId := id, slots }
    return (testCase, some { name, options, executable := some executable })
  else if setting.omitFiltered then return (testCase, none)
  else return (testCase, some { name, options, executable := none })

/-- The tests of a scenario.  Those of examples are counted from one. -/
def scenario (setting : Setting Host) (scenario : Scenario Nat) :
    Numbering (Composed Host) :=
  let pickles := setting.picklesOf scenario
  if scenario.examples.isEmpty then
    pickles.mapM (setting.test (nameOr "<unnamed scenario>" scenario.name))
  else
    pickles.zipIdx.mapM fun (pickle, index) =>
      let name := nameOr "<unnamed scenario>" pickle.name
      setting.test s!"{name} (example #{index + 1})" pickle

/-- Whether a rule is left out because the filter selects none of its
pickles. -/
def cuts (setting : Setting Host) (rule : Rule Nat) : Bool :=
  setting.omitFiltered &&
    !((rule.children.filterMap RuleChild.scenario?).flatMap
      setting.picklesOf).any setting.selects

/-- The tests of a rule. -/
def rule (setting : Setting Host) (rule : Rule Nat) :
    Numbering (Composed Host) := do
  let composed ←
    (rule.children.filterMap RuleChild.scenario?).mapM setting.scenario
  return composed.flatten

/-- The test cases and the items of a child of a feature. -/
def child (setting : Setting Host) :
    FeatureChild Nat → Numbering (List (TestCase Nat) × List (SuiteItem Host))
  | .background _ => pure ([], [])
  | .scenario value => do
      let composed ← setting.scenario value
      return (composed.map (·.1), (composed.filterMap (·.2)).map .test)
  | .rule value =>
      if setting.cuts value then pure ([], [])
      else do
        let composed ← setting.rule value
        let group : SuiteItem Host :=
          .group (nameOr "<unnamed rule>" value.name)
            (composed.filterMap (·.2))
        return (composed.map (·.1), [group])

/-- The test cases and the suite of a feature. -/
def suite (setting : Setting Host) (feature : Feature Nat) :
    Numbering (List (TestCase Nat) × Suite Host) := do
  let children ← feature.children.mapM setting.child
  let suite : Suite Host :=
    { name := nameOr "<unnamed feature>" feature.name
      items := children.flatMap (·.2) }
  return (children.flatMap (·.1), suite)

end Setting

/-- Whether a tag singles out what carries it. -/
def isFocus (tag : Tag Nat) : Bool :=
  tag.name == "@only" || tag.name == "@focus"

/-- The filter in force: a tag that singles out tests anywhere in the document
replaces the filter of the options. -/
def effectiveFilter (document : Document Nat) (options : ComposeOptions) :
    Option TagExpression :=
  if document.allTags.any isFocus then some TagExpression.focus
  else options.tags

/-- The messages about what is going to be run, without the tests. -/
def openingMessages (registry : Registry Host) (source : String)
    (document : Document Nat) (pickles : List (Pickle Nat)) :
    List (Envelope Nat) :=
  [.source document.uri source, .document document] ++
    pickles.map .pickle ++ registry.envelopes ++ [.runStarted {}]

end Compose

/-- Compose the tests of a document.  With the tests come the messages known
so far. -/
def Spec.compose {Host : Type} (registry : Registry Host) (source : String)
    (document : Document Nat) (pickles : List (Pickle Nat))
    (options : ComposeOptions) :
    Numbering (Spec Host × List (Envelope Nat)) := do
  let setting : Compose.Setting Host :=
    { registry
      pickles
      filter := Compose.effectiveFilter document options
      omitFiltered := options.omitFiltered }
  let composed ← document.feature.mapM setting.suite
  let spec : Spec Host :=
    { uri := document.uri
      registry
      suite := composed.map (·.2)
      hints := options.hints
      interactive := options.interactive
      messagesEnabled := options.messagesEnabled }
  let testCases := (composed.map (·.1)).getD []
  return (spec, Compose.openingMessages registry source document pickles ++
    testCases.map .testCase)

end ScenarioRunner
