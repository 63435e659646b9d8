import ScenarioRunner.Pickle.Compile
import ScenarioRunner.Proofs.Drawing
import ScenarioRunner.Proofs.PlaceholderTemplate

/-!
# Where pickles come from

A pickle is made from a scenario, and from a row of examples if the scenario
has examples.  It takes over the steps of the backgrounds and the tags around
the scenario.  The origins of a document list what there is to make pickles
from, scenario by scenario in the order of the text, and within a scenario
table by table and row by row.  An origin has the steps of all backgrounds of
its feature and of its own rule: where backgrounds come first, these are the
ones that are in force.

The main statement is `pickles_follow_origins`.
-/

namespace ScenarioRunner

open ScenarioRunner.Numbering (Ensures)

/-! ## Origins -/

/-- A row of values with the examples and the header it stands below. -/
structure ExampleRow where
  examples : Examples Nat
  header : TableRow Nat
  values : TableRow Nat

/-- What a pickle is made from. -/
structure PickleOrigin where
  around : Surroundings
  scenario : Scenario Nat
  row : Option ExampleRow

namespace PickleOrigin

/-- What becomes of a text of the scenario: it is kept, or the values of the
row are put in place of its placeholders. -/
def fill (origin : PickleOrigin) : String → String :=
  match origin.row with
  | none => fun text => text
  | some row =>
      Placeholder.replace (row.header.cells.zip row.values.cells)

def rowId (origin : PickleOrigin) : Option Nat :=
  origin.row.map (·.values.id)

/-- The tags of the feature, the rule, the scenario and the examples. -/
def tags (origin : PickleOrigin) : List (Tag Nat) :=
  origin.around.tags ++ origin.scenario.tags ++
    match origin.row with
    | none => []
    | some row => row.examples.tags

end PickleOrigin

/-- The rows below the header.  Without a header there is no table. -/
def Examples.rows (examples : Examples Nat) : List ExampleRow :=
  match examples.header with
  | none => []
  | some header =>
      examples.body.map fun values => { examples, header, values }

namespace Scenario

/-- One origin without examples, and otherwise one for each row. -/
def origins (around : Surroundings) (scenario : Scenario Nat) :
    List PickleOrigin :=
  match scenario.examples with
  | [] => [{ around, scenario, row := none }]
  | tables =>
      (tables.flatMap Examples.rows).map fun row =>
        { around, scenario, row := some row }

end Scenario

/-- Surroundings with the steps of more backgrounds. -/
def Surroundings.behind (around : Surroundings) (steps : List (Step Nat)) :
    Surroundings :=
  { around with background := around.background ++ steps }

@[simp]
theorem Surroundings.behind_nil (around : Surroundings) :
    around.behind [] = around := by
  simp [behind]

@[simp]
theorem Surroundings.behind_within (around : Surroundings)
    (value : Background Nat) (steps : List (Step Nat)) :
    (around.within value).behind steps =
      around.behind (value.steps ++ steps) := by
  simp [behind, within]

namespace RuleChild

def backgroundSteps : RuleChild Nat → List (Step Nat)
  | .background value => value.steps
  | .scenario _ => []

def origins (around : Surroundings) : RuleChild Nat → List PickleOrigin
  | .background _ => []
  | .scenario value => value.origins around

def IsBackground : RuleChild Nat → Prop
  | .background _ => True
  | .scenario _ => False

def HoldsScenarios : RuleChild Nat → Prop
  | .background _ => False
  | .scenario _ => True

/-- No background stands behind a scenario. -/
def BackgroundsFirst (children : List (RuleChild Nat)) : Prop :=
  children.Pairwise fun earlier later =>
    earlier.HoldsScenarios → ¬ later.IsBackground

end RuleChild

/-- The origins of a rule, which has the backgrounds of its feature in force
and all of its own. -/
def Rule.origins (around : Surroundings) (rule : Rule Nat) :
    List PickleOrigin :=
  rule.children.flatMap (RuleChild.origins
    ((around.tagged rule.tags).behind
      (rule.children.flatMap RuleChild.backgroundSteps)))

namespace FeatureChild

def backgroundSteps : FeatureChild Nat → List (Step Nat)
  | .background value => value.steps
  | .scenario _ => []
  | .rule _ => []

def origins (around : Surroundings) : FeatureChild Nat → List PickleOrigin
  | .background _ => []
  | .scenario value => value.origins around
  | .rule value => value.origins around

def IsBackground : FeatureChild Nat → Prop
  | .background _ => True
  | .scenario _ => False
  | .rule _ => False

def HoldsScenarios : FeatureChild Nat → Prop
  | .background _ => False
  | .scenario _ => True
  | .rule value => ∃ child ∈ value.children, child.HoldsScenarios

/-- No background stands behind a scenario, not even behind one of a rule. -/
def BackgroundsFirst (children : List (FeatureChild Nat)) : Prop :=
  children.Pairwise fun earlier later =>
    earlier.HoldsScenarios → ¬ later.IsBackground

end FeatureChild

namespace Document

/-- What there is to make pickles from. -/
def origins (document : Document Nat) : List PickleOrigin :=
  match document.feature with
  | none => []
  | some feature =>
      let around : Surroundings :=
        { uri := document.uri, tags := feature.tags }
      feature.children.flatMap (FeatureChild.origins
        (around.behind
          (feature.children.flatMap FeatureChild.backgroundSteps)))

/-- The backgrounds of the feature come before its scenarios, and those of
each rule before the scenarios of the rule. -/
def BackgroundsFirst (document : Document Nat) : Prop :=
  ∀ feature ∈ document.feature,
    FeatureChild.BackgroundsFirst feature.children ∧
      ∀ rule, .rule rule ∈ feature.children →
        RuleChild.BackgroundsFirst rule.children

end Document

/-! ## Pickles made from origins -/

/-- The argument of a step, with its texts changed. -/
def Step.argument (change : String → String) (step : Step Nat) :
    Option PickleArgument :=
  match step.docString, step.table with
  | none, none => none
  | docString, table =>
      some {
        docString := docString.map fun found => change found.content
        table := table.map fun table =>
          table.rows.map fun row => row.cells.map change }

/-- A step of a pickle is a step of the document with its texts changed. -/
structure Step.Becomes (change : String → String) (row : Option Nat)
    (step : Step Nat) (made : PickleStep Nat) : Prop where
  text : made.text = change step.text
  argument : made.argument = step.argument change
  kind : made.kind = step.kind
  nodeIds : made.nodeIds = step.id :: row.toList

/--
A pickle is made from an origin.  The steps of the backgrounds come first and
are kept as they are.
-/
structure PickleOrigin.Gives (origin : PickleOrigin)
    (pickle : Pickle Nat) : Prop where
  uri : pickle.uri = origin.around.uri
  name : pickle.name = origin.fill origin.scenario.name
  steps :
    ∃ before own,
      pickle.steps = before ++ own ∧
        List.Forall₂ (Step.Becomes (fun text => text) none)
          origin.around.background before ∧
        List.Forall₂ (Step.Becomes origin.fill origin.rowId)
          origin.scenario.steps own
  tags :
    pickle.tags = origin.tags.map fun tag => ⟨tag.name, tag.id⟩
  nodeIds :
    pickle.nodeIds = origin.scenario.id :: origin.rowId.toList

theorem Step.pickleArgument_eq_argument (values : Placeholder.Values)
    (step : Step Nat) :
    step.pickleArgument values =
      step.argument (Placeholder.replace values) := by
  unfold Step.pickleArgument Step.argument
  cases step.docString <;> cases step.table <;> rfl

theorem Step.pickle_becomes (values : Placeholder.Values)
    (row : Option Nat) (step : Step Nat) :
    Ensures (step.pickle values row)
      (step.Becomes (Placeholder.replace values) row) := by
  refine .bind (.trivial _) fun id _ => ?_
  exact .pure ⟨rfl, step.pickleArgument_eq_argument values, rfl, rfl⟩

theorem replace_nil_eq : Placeholder.replace [] = fun text => text := by
  funext text
  exact Placeholder.replace_nil text

/-- Without values a step is kept as it is. -/
theorem Step.pickle_kept (row : Option Nat) (step : Step Nat) :
    Ensures (step.pickle [] row) (step.Becomes (fun text => text) row) := by
  rw [← replace_nil_eq]
  exact step.pickle_becomes [] row

namespace Scenario

/-- A pickle of a scenario is made from the origin it is made for. -/
theorem pickle_given (origin : PickleOrigin) (values : Placeholder.Values)
    (filled : Placeholder.replace values = origin.fill)
    (tags : List (Tag Nat))
    (all : origin.around.tags ++ origin.scenario.tags ++ tags = origin.tags) :
    Ensures
      (origin.scenario.pickle origin.around values origin.rowId tags)
      origin.Gives := by
  have background :
      Ensures (origin.around.background.mapM (Step.pickle [] none))
        (List.Forall₂ (Step.Becomes (fun text => text) none)
          origin.around.background) :=
    .mapM_forall₂ fun step _ => step.pickle_kept none
  have steps :
      Ensures
        (origin.scenario.steps.mapM (Step.pickle values origin.rowId))
        (List.Forall₂ (Step.Becomes origin.fill origin.rowId)
          origin.scenario.steps) :=
    .mapM_forall₂ fun step _ => filled ▸ step.pickle_becomes values _
  refine .bind background fun before beforeMade => ?_
  refine .bind steps fun own ownMade => ?_
  refine .bind (.trivial _) fun id _ => ?_
  refine .pure ⟨rfl, ?_, ⟨before, own, rfl, beforeMade, ownMade⟩, ?_, rfl⟩
  · rw [filled]
  · rw [all]
    rfl

/-- The pickles of a table are made from its rows. -/
theorem examplesPickles_given (around : Surroundings)
    (scenario : Scenario Nat) (examples : Examples Nat) :
    Ensures (scenario.examplesPickles around examples)
      (List.Forall₂ PickleOrigin.Gives
        (examples.rows.map fun row =>
          { around, scenario, row := some row })) := by
  intro next
  unfold examplesPickles Examples.rows
  cases examples.header with
  | none => exact .nil
  | some header =>
      let origin (values : TableRow Nat) : PickleOrigin :=
        { around, scenario, row := some { examples, header, values } }
      have made :
          Ensures
            (examples.body.mapM fun values =>
              scenario.pickle around (header.cells.zip values.cells)
                (some values.id) examples.tags)
            (List.Forall₂ (fun values => (origin values).Gives)
              examples.body) :=
        .mapM_forall₂ fun values _ =>
          pickle_given (origin values) (header.cells.zip values.cells) rfl
            examples.tags rfl
      rw [List.map_map, List.forall₂_map_left_iff]
      exact made next

/-- The pickles of a scenario are made from its origins. -/
theorem pickles_given (around : Surroundings) (scenario : Scenario Nat) :
    Ensures (scenario.pickles around)
      (List.Forall₂ PickleOrigin.Gives (scenario.origins around)) := by
  cases tables : scenario.examples with
  | nil =>
      simp only [pickles, origins, tables]
      have made :=
        pickle_given { around, scenario, row := none } [] replace_nil_eq []
          rfl
      refine .bind made fun pickle given => ?_
      exact .pure (.cons given .nil)
  | cons first others =>
      simp only [pickles, origins, tables]
      have made :
          Ensures
            ((first :: others).mapM (scenario.examplesPickles around))
            (List.Forall₂ (fun examples => List.Forall₂ PickleOrigin.Gives
              (examples.rows.map fun row =>
                { around, scenario, row := some row }))
              (first :: others)) :=
        .mapM_forall₂ fun examples _ =>
          examplesPickles_given around scenario examples
      refine .bind made fun found given => ?_
      refine .pure ?_
      rw [List.map_flatMap]
      exact List.rel_flatten (List.forall₂_map_left_iff.mpr given)

end Scenario

/-! ## Pickles of documents -/

namespace RuleChild

/-- Behind a scenario there are no more steps of backgrounds. -/
theorem backgroundSteps_eq_nil {first : RuleChild Nat}
    {others : List (RuleChild Nat)} (holds : first.HoldsScenarios)
    (lead : ∀ later ∈ others,
      first.HoldsScenarios → ¬ later.IsBackground) :
    others.flatMap backgroundSteps = [] := by
  rw [List.flatMap_eq_nil_iff]
  intro later member
  cases later with
  | background value => exact absurd trivial (lead _ member holds)
  | scenario value => rfl

/-- The pickles of the children of a rule are made from their origins. -/
theorem pickles_given {children : List (RuleChild Nat)}
    (lead : BackgroundsFirst children) (around : Surroundings) :
    Ensures (pickles around children)
      (List.Forall₂ PickleOrigin.Gives
        (children.flatMap (origins
          (around.behind (children.flatMap backgroundSteps))))) := by
  induction children generalizing around with
  | nil => exact .pure .nil
  | cons child others ih =>
      obtain ⟨own, rest⟩ := List.pairwise_cons.mp lead
      cases child with
      | background value =>
          have later := ih rest (around.within value)
          rwa [Surroundings.behind_within] at later
      | scenario value =>
          have holds : (scenario value).HoldsScenarios := trivial
          have same :
              value.origins
                  (around.behind (others.flatMap backgroundSteps)) =
                value.origins around := by
            rw [backgroundSteps_eq_nil holds own, Surroundings.behind_nil]
          refine .bind (value.pickles_given around) fun pickles given => ?_
          refine .bind (ih rest around) fun behind givenBehind => ?_
          refine .pure ?_
          rw [← same] at given
          exact List.rel_append given givenBehind

end RuleChild

/-- The pickles of a rule are made from its origins. -/
theorem Rule.pickles_given {rule : Rule Nat}
    (lead : RuleChild.BackgroundsFirst rule.children)
    (around : Surroundings) :
    Ensures (RuleChild.pickles (around.tagged rule.tags) rule.children)
      (List.Forall₂ PickleOrigin.Gives (rule.origins around)) :=
  RuleChild.pickles_given lead (around.tagged rule.tags)

namespace FeatureChild

theorem backgroundSteps_eq_nil {first : FeatureChild Nat}
    {others : List (FeatureChild Nat)} (holds : first.HoldsScenarios)
    (lead : ∀ later ∈ others,
      first.HoldsScenarios → ¬ later.IsBackground) :
    others.flatMap backgroundSteps = [] := by
  rw [List.flatMap_eq_nil_iff]
  intro later member
  cases later with
  | background value => exact absurd trivial (lead _ member holds)
  | scenario value => rfl
  | rule value => rfl

/-- A child without scenarios has no origins. -/
theorem origins_eq_nil {child : FeatureChild Nat}
    (none : ¬ child.HoldsScenarios) (around : Surroundings) :
    child.origins around = [] := by
  cases child with
  | background value => rfl
  | scenario value => exact absurd trivial none
  | rule value =>
      rw [origins, Rule.origins, List.flatMap_eq_nil_iff]
      intro inner member
      cases inner with
      | background value => rfl
      | scenario value => exact absurd ⟨_, member, trivial⟩ none

/-- A child that is no background has all backgrounds in force that there are,
or no scenario that they could matter to. -/
theorem origins_behind {first : FeatureChild Nat}
    {others : List (FeatureChild Nat)}
    (lead : ∀ later ∈ others, first.HoldsScenarios → ¬ later.IsBackground)
    (around : Surroundings) :
    first.origins (around.behind (others.flatMap backgroundSteps)) =
      first.origins around := by
  by_cases holds : first.HoldsScenarios
  · rw [backgroundSteps_eq_nil holds lead, Surroundings.behind_nil]
  · rw [origins_eq_nil holds, origins_eq_nil holds]

/-- The pickles of the children of a feature are made from their origins. -/
theorem pickles_given {children : List (FeatureChild Nat)}
    (lead : BackgroundsFirst children)
    (rules : ∀ rule, .rule rule ∈ children →
      RuleChild.BackgroundsFirst rule.children)
    (around : Surroundings) :
    Ensures (pickles around children)
      (List.Forall₂ PickleOrigin.Gives
        (children.flatMap (origins
          (around.behind (children.flatMap backgroundSteps))))) := by
  induction children generalizing around with
  | nil => exact .pure .nil
  | cons child others ih =>
      obtain ⟨own, rest⟩ := List.pairwise_cons.mp lead
      have later (around : Surroundings) :=
        ih rest (fun rule member => rules rule (.tail child member)) around
      cases child with
      | background value =>
          have behind := later (around.within value)
          rwa [Surroundings.behind_within] at behind
      | scenario value =>
          refine .bind (value.pickles_given around) fun pickles given => ?_
          refine .bind (later around) fun behind givenBehind => ?_
          refine .pure ?_
          have same :
              value.origins
                  (around.behind (others.flatMap backgroundSteps)) =
                value.origins around := origins_behind own around
          rw [← same] at given
          exact List.rel_append given givenBehind
      | rule value =>
          have lead := rules value List.mem_cons_self
          refine .bind (value.pickles_given lead around)
            fun pickles given => ?_
          refine .bind (later around) fun behind givenBehind => ?_
          refine .pure ?_
          have same :
              value.origins
                  (around.behind (others.flatMap backgroundSteps)) =
                value.origins around := origins_behind own around
          rw [← same] at given
          exact List.rel_append given givenBehind

end FeatureChild

namespace Document

theorem pickles_given {document : Document Nat}
    (lead : document.BackgroundsFirst) :
    Ensures document.pickles
      (List.Forall₂ PickleOrigin.Gives document.origins) := by
  unfold pickles origins
  cases found : document.feature with
  | none => exact .pure .nil
  | some feature =>
      obtain ⟨children, rules⟩ := lead feature found
      exact FeatureChild.pickles_given children rules _

/--
Where backgrounds come before scenarios, the pickles of a document are made
from its origins, one from each and in order.  The texts of a scenario with
examples are templates: each of their placeholders becomes the last cell that
the row has below a header of that name, and is kept if there is none.
-/
theorem pickles_follow_origins (document : Document Nat)
    (lead : document.BackgroundsFirst) (next : Nat) :
    List.Forall₂ PickleOrigin.Gives document.origins
        (document.pickles.run next).1 ∧
      ∀ header row : List String,
        (∀ template : Placeholder.Template,
          Placeholder.replace (header.zip row) template.text =
            template.filled (header.zip row)) ∧
        ∀ name value,
          Placeholder.value? (header.zip row) name = some value ↔
            Placeholder.IsCell header row name value := by
  refine ⟨pickles_given lead next, fun header row => ⟨?_, ?_⟩⟩
  · exact Placeholder.replace_text (header.zip row)
  · exact Placeholder.value?_zip_eq_some_iff header row

end Document

namespace Sample

/-- A step with a text. -/
def step (id : Nat) (text : String) : Step Nat where
  id := id
  location := ⟨id, none⟩
  keyword := "Given "
  kind := .context
  text := text

/-- A row of a table. -/
def row (id : Nat) (cells : List String) : TableRow Nat where
  id := id
  location := ⟨id, none⟩
  cells := cells

/-- A background with one step. -/
def background (id : Nat) (step : Step Nat) : Background Nat where
  id := id
  location := ⟨id, none⟩
  keyword := "Background"
  steps := [step]

/-- A rule with a background and an outline, and a scenario behind it. -/
def outlined : Document Nat where
  uri := "a.feature"
  feature := some
    { location := ⟨1, none⟩
      tags := []
      keyword := "Feature"
      name := "A"
      description := ""
      children :=
        [ .background (background 0 (step 1 "all <a>")),
          .rule
            { id := 2
              location := ⟨2, none⟩
              tags := []
              keyword := "Rule"
              name := "B"
              description := ""
              children :=
                [ .background (background 3 (step 4 "some")),
                  .scenario
                    { id := 5
                      location := ⟨5, none⟩
                      tags := []
                      keyword := "Scenario Outline"
                      name := "<a>"
                      description := ""
                      steps := [step 6 "<a> and <b>"]
                      examples :=
                        [ { id := 7
                            location := ⟨7, none⟩
                            tags := []
                            keyword := "Examples"
                            header := some (row 8 ["a", "a"])
                            body := [row 9 ["1", "<b>"], row 10 ["3"]] } ]
                    } ] },
          .scenario
            { id := 11
              location := ⟨11, none⟩
              tags := []
              keyword := "Scenario"
              name := "C"
              description := ""
              steps := []
              examples := [] } ] }

/-- The background of the rule does not reach the scenario behind the rule, and
both rows of the outline give a pickle. -/
theorem outlined_pickles_follow_origins :
    outlined.BackgroundsFirst ∧
      outlined.origins.map (·.around.background.map (·.text)) =
        [["all <a>", "some"], ["all <a>", "some"], ["all <a>"]] ∧
      List.Forall₂ PickleOrigin.Gives outlined.origins
        (outlined.pickles.run 12).1 := by
  have lead : outlined.BackgroundsFirst := by
    intro feature member
    cases member
    constructor
    · simp [FeatureChild.BackgroundsFirst, FeatureChild.IsBackground,
        FeatureChild.HoldsScenarios]
    · intro rule member
      simp only [List.mem_cons, reduceCtorEq, FeatureChild.rule.injEq,
        List.not_mem_nil, or_false, false_or] at member
      subst member
      simp [RuleChild.BackgroundsFirst, RuleChild.IsBackground,
        RuleChild.HoldsScenarios]
  exact ⟨lead, rfl, (Document.pickles_follow_origins outlined lead 12).1⟩

end Sample

end ScenarioRunner
