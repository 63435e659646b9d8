import Mathlib.Data.List.Nodup
import ScenarioRunner.Message.Envelope

/-!
# What messages declare and refer to

An identifier in a message stands for something: for a node of a document, for
a pickle or a step of one, for a definition, or for a part of a test.  Some
messages declare what their identifiers stand for, and others refer to what has
been declared.  The declarations of a node are listed in the order in which
their identifiers are drawn.

Messages are coherent if no identifier is declared twice and every reference is
to a declaration of the same kind in an earlier message.
-/

namespace ScenarioRunner

/-- What an identifier stands for. -/
inductive Entity where
  | tag
  | rule
  | background
  | scenario
  | examples
  | row
  | step
  | pickle
  | pickleStep
  | stepDefinition
  | hook
  | testStep
  | testCase
  | attempt
  deriving DecidableEq, Repr

/-- An identifier with what it stands for. -/
structure Declaration where
  entity : Entity
  id : Nat
  deriving DecidableEq, Repr

/-! ## Documents -/

def Tag.declared (tag : Tag Nat) : List Declaration := [⟨.tag, tag.id⟩]

def TableRow.declared (row : TableRow Nat) : List Declaration :=
  [⟨.row, row.id⟩]

def StepTable.declared (table : StepTable Nat) : List Declaration :=
  table.rows.flatMap TableRow.declared

def Step.declared (step : Step Nat) : List Declaration :=
  step.table.toList.flatMap StepTable.declared ++ [⟨.step, step.id⟩]

def Background.declared (background : Background Nat) : List Declaration :=
  ⟨.background, background.id⟩ :: background.steps.flatMap Step.declared

def Examples.declared (examples : Examples Nat) : List Declaration :=
  examples.header.toList.flatMap TableRow.declared ++
    examples.body.flatMap TableRow.declared ++
    ⟨.examples, examples.id⟩ :: examples.tags.flatMap Tag.declared

def Scenario.declared (scenario : Scenario Nat) : List Declaration :=
  ⟨.scenario, scenario.id⟩ :: scenario.tags.flatMap Tag.declared ++
    scenario.steps.flatMap Step.declared ++
    scenario.examples.flatMap Examples.declared

def RuleChild.declared : RuleChild Nat → List Declaration
  | .background value => value.declared
  | .scenario value => value.declared

def Rule.declared (rule : Rule Nat) : List Declaration :=
  rule.children.flatMap RuleChild.declared ++
    ⟨.rule, rule.id⟩ :: rule.tags.flatMap Tag.declared

def FeatureChild.declared : FeatureChild Nat → List Declaration
  | .background value => value.declared
  | .scenario value => value.declared
  | .rule value => value.declared

def Feature.declared (feature : Feature Nat) : List Declaration :=
  feature.children.flatMap FeatureChild.declared ++
    feature.tags.flatMap Tag.declared

def Document.declared (document : Document Nat) : List Declaration :=
  document.feature.toList.flatMap Feature.declared

/-! ## Pickles -/

/-- References to a node, and to a row of examples if there is one more. -/
def nodeReferences (entity : Entity) : List Nat → List Declaration
  | [] => []
  | node :: rows => ⟨entity, node⟩ :: rows.map fun row => ⟨.row, row⟩

namespace Pickle

def declared (pickle : Pickle Nat) : List Declaration :=
  pickle.steps.map (fun step => ⟨.pickleStep, step.id⟩) ++
    [⟨.pickle, pickle.id⟩]

def references (pickle : Pickle Nat) : List Declaration :=
  nodeReferences .scenario pickle.nodeIds ++
    pickle.tags.map (fun tag => ⟨.tag, tag.nodeId⟩) ++
    pickle.steps.flatMap fun step => nodeReferences .step step.nodeIds

end Pickle

/-! ## Test cases -/

def TestStep.references (step : TestStep Nat) : List Declaration :=
  step.hookId.toList.map (fun id => ⟨.hook, id⟩) ++
    step.pickleStepId.toList.map (fun id => ⟨.pickleStep, id⟩) ++
    (step.definitionIds.getD []).map fun id => ⟨.stepDefinition, id⟩

namespace TestCase

def declared (testCase : TestCase Nat) : List Declaration :=
  testCase.steps.map (fun step => ⟨.testStep, step.id⟩) ++
    [⟨.testCase, testCase.id⟩]

def references (testCase : TestCase Nat) : List Declaration :=
  ⟨.pickle, testCase.pickleId⟩ :: testCase.steps.flatMap TestStep.references

end TestCase

/-! ## Messages -/

namespace Envelope

/-- What a message declares. -/
def declared : Envelope Nat → List Declaration
  | .document value => value.declared
  | .pickle value => value.declared
  | .stepDefinition id .. => [⟨.stepDefinition, id⟩]
  | .hook id .. => [⟨.hook, id⟩]
  | .testCase value => value.declared
  | .caseStarted id .. => [⟨.attempt, id⟩]
  | .source .. => []
  | .runStarted _ => []
  | .stepStarted .. => []
  | .stepFinished .. => []
  | .caseFinished .. => []
  | .runFinished _ => []
  | .attachment .. => []

/-- What a message about a test step refers to. -/
def stepReferences (step started : Nat) : List (Option Declaration) :=
  [some ⟨.testStep, step⟩, some ⟨.attempt, started⟩]

/-- What a message refers to.  The end of an attempt that was never started
names none. -/
def references : Envelope Nat → List (Option Declaration)
  | .pickle value => value.references.map some
  | .testCase value => value.references.map some
  | .caseStarted _ test .. => [some ⟨.testCase, test⟩]
  | .stepStarted step started _ => stepReferences step started
  | .stepFinished step started .. => stepReferences step started
  | .attachment started step .. => stepReferences step started
  | .caseFinished started .. => [started.map fun id => ⟨.attempt, id⟩]
  | .source .. => []
  | .document _ => []
  | .stepDefinition .. => []
  | .hook .. => []
  | .runStarted _ => []
  | .runFinished _ => []

end Envelope

/-- All that messages refer to is known or declared by a message before. -/
def Resolved (known : List Declaration) : List (Envelope Nat) → Prop
  | [] => True
  | message :: others =>
      message.references ⊆ known.map some ∧
        Resolved (known ++ message.declared) others

namespace Resolved

theorem append {known : List Declaration}
    {first second : List (Envelope Nat)}
    (early : Resolved known first)
    (late : Resolved (known ++ first.flatMap Envelope.declared) second) :
    Resolved known (first ++ second) := by
  induction first generalizing known with
  | nil => simpa using late
  | cons message others ih =>
      refine ⟨early.1, ih early.2 ?_⟩
      simpa [List.append_assoc] using late

/-- What is known stays known. -/
theorem of_references {known : List Declaration}
    {messages : List (Envelope Nat)}
    (each : ∀ message ∈ messages, message.references ⊆ known.map some) :
    Resolved known messages := by
  induction messages generalizing known with
  | nil => trivial
  | cons message others ih =>
      have own := each message List.mem_cons_self
      refine ⟨own, ih fun other member => ?_⟩
      have later := each other (.tail message member)
      rw [List.map_append]
      exact List.subset_append_of_subset_left _ later

/-- What a message refers to is known once all messages are. -/
theorem references_subset {known : List Declaration}
    {messages : List (Envelope Nat)} (resolved : Resolved known messages)
    {message : Envelope Nat} (member : message ∈ messages) :
    message.references ⊆
      (known ++ messages.flatMap Envelope.declared).map some := by
  induction messages generalizing known with
  | nil => cases member
  | cons first others ih =>
      rcases List.mem_cons.mp member with rfl | later
      · rw [List.map_append]
        exact List.subset_append_of_subset_left _ resolved.1
      · simpa [List.append_assoc] using ih resolved.2 later

end Resolved

/-- No identifier is declared twice, and every reference is to an earlier
declaration. -/
structure Coherent (messages : List (Envelope Nat)) : Prop where
  distinct :
    ((messages.flatMap Envelope.declared).map Declaration.id).Nodup
  resolved : Resolved [] messages

end ScenarioRunner
