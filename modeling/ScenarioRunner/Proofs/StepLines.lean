import ScenarioRunner.Diagnosis.Basic
import ScenarioRunner.Proofs.PickleLookup
import ScenarioRunner.Proofs.ReadLines
import ScenarioRunner.Proofs.Renumbering

/-!
# The line of a step of a pickle

A step of a pickle is made from a step of the document, to which it refers by
its identifier.  Its line is looked up by that identifier, among the steps of
the feature, of its rules and of all their backgrounds and scenarios.  Where
nodes have identifiers of their own, the line that is found is the line of the
step that it is made from.

The main statement is `FeatureFile.lines_of_parse`.
-/

namespace ScenarioRunner

open ScenarioRunner.Numbering (Ensures)

/-! ## Steps of pickles are made from steps of the document -/

/-- A step of a pickle is made from one of some steps. -/
def PickleStep.ComesFrom (steps : List (Step Nat))
    (made : PickleStep Nat) : Prop :=
  ∃ step ∈ steps, ∃ change row, step.Becomes change row made

/-- The steps of a pickle are made from some of the given ones. -/
def Pickle.ComesFrom (steps : List (Step Nat)) (pickle : Pickle Nat) :
    Prop :=
  ∀ made ∈ pickle.steps, made.ComesFrom steps

section Origin

variable {known : List (Step Nat)} {around : Surroundings}

theorem Step.pickle_comesFrom {step : Step Nat} (member : step ∈ known)
    (values : Placeholder.Values) (row : Option Nat) :
    Ensures (step.pickle values row) (PickleStep.ComesFrom known) := by
  refine (step.pickle_becomes values row).imp ?_
  intro made becomes
  exact ⟨step, member, _, _, becomes⟩

namespace Scenario

theorem pickle_comesFrom (background : around.background ⊆ known)
    {scenario : Scenario Nat} (own : scenario.steps ⊆ known)
    (values : Placeholder.Values) (row : Option Nat)
    (tags : List (Tag Nat)) :
    Ensures (scenario.pickle around values row tags)
      (Pickle.ComesFrom known) := by
  refine .bind (.mapM fun step member =>
    step.pickle_comesFrom (background member) [] none) fun before early => ?_
  refine .bind (.mapM fun step member =>
    step.pickle_comesFrom (own member) values row) fun after late => ?_
  refine .bind (.trivial _) fun id _ => ?_
  exact .pure (List.forall_mem_append.mpr ⟨early, late⟩)

theorem examplesPickles_comeFrom (background : around.background ⊆ known)
    {scenario : Scenario Nat} (own : scenario.steps ⊆ known)
    (examples : Examples Nat) :
    Ensures (scenario.examplesPickles around examples)
      (fun pickles => ∀ pickle ∈ pickles, pickle.ComesFrom known) := by
  unfold examplesPickles
  cases examples.header with
  | none => exact .pure (List.forall_mem_nil _)
  | some header =>
      exact .mapM fun row _ => pickle_comesFrom background own _ _ _

theorem pickles_comeFrom (background : around.background ⊆ known)
    {scenario : Scenario Nat} (own : scenario.steps ⊆ known) :
    Ensures (scenario.pickles around)
      (fun pickles => ∀ pickle ∈ pickles, pickle.ComesFrom known) := by
  cases tables : scenario.examples with
  | nil =>
      simp only [pickles, tables]
      refine .bind (pickle_comesFrom background own [] none [])
        fun pickle comes => ?_
      exact .pure (List.forall_mem_singleton.mpr comes)
  | cons first others =>
      simp only [pickles, tables]
      refine .bind
        (.mapM fun examples _ =>
          examplesPickles_comeFrom background own examples)
        fun found come => ?_
      apply Ensures.pure
      intro pickle member
      obtain ⟨pickles, part, among⟩ := List.mem_flatten.mp member
      exact come pickles part pickle among

end Scenario

theorem RuleChild.pickles_comeFrom {children : List (RuleChild Nat)}
    (background : around.background ⊆ known)
    (below : children.flatMap RuleChild.steps ⊆ known) :
    Ensures (pickles around children)
      (fun pickles => ∀ pickle ∈ pickles, pickle.ComesFrom known) := by
  induction children generalizing around with
  | nil => exact .pure (List.forall_mem_nil _)
  | cons child others ih =>
      obtain ⟨own, rest⟩ := List.append_subset.mp below
      cases child with
      | background value =>
          have more : (around.within value).background ⊆ known :=
            List.append_subset.mpr ⟨background, own⟩
          exact ih more rest
      | scenario value =>
          refine .bind (Scenario.pickles_comeFrom background own)
            fun first early => ?_
          refine .bind (ih background rest) fun behind late => ?_
          exact .pure (List.forall_mem_append.mpr ⟨early, late⟩)

theorem FeatureChild.pickles_comeFrom {children : List (FeatureChild Nat)}
    (background : around.background ⊆ known)
    (below : children.flatMap FeatureChild.steps ⊆ known) :
    Ensures (pickles around children)
      (fun pickles => ∀ pickle ∈ pickles, pickle.ComesFrom known) := by
  induction children generalizing around with
  | nil => exact .pure (List.forall_mem_nil _)
  | cons child others ih =>
      obtain ⟨own, rest⟩ := List.append_subset.mp below
      cases child with
      | background value =>
          have more : (around.within value).background ⊆ known :=
            List.append_subset.mpr ⟨background, own⟩
          exact ih more rest
      | scenario value =>
          refine .bind (Scenario.pickles_comeFrom background own)
            fun first early => ?_
          refine .bind (ih background rest) fun behind late => ?_
          exact .pure (List.forall_mem_append.mpr ⟨early, late⟩)
      | rule value =>
          have inside :
              Ensures
                (RuleChild.pickles (around.tagged value.tags) value.children)
                (fun pickles =>
                  ∀ pickle ∈ pickles, pickle.ComesFrom known) :=
            RuleChild.pickles_comeFrom background own
          refine .bind inside fun first early => ?_
          refine .bind (ih background rest) fun behind late => ?_
          exact .pure (List.forall_mem_append.mpr ⟨early, late⟩)

end Origin

theorem Document.pickles_comeFrom (document : Document Nat) :
    Ensures document.pickles
      (fun pickles =>
        ∀ pickle ∈ pickles, pickle.ComesFrom document.steps) := by
  unfold Document.pickles Document.steps
  cases document.feature with
  | none => exact .pure (List.forall_mem_nil _)
  | some feature =>
      rw [Option.toList_some, List.flatMap_singleton]
      exact FeatureChild.pickles_comeFrom (List.nil_subset _)
        (List.Subset.refl _)

/-! ## Lines by identifiers -/

namespace Document

theorem stepLines_eq (document : Document Nat) :
    document.stepLines =
      document.steps.map fun step => (step.id, step.location.line) := by
  unfold stepLines steps
  cases document.feature with
  | none => rfl
  | some feature =>
      simp only [Option.toList_some, List.flatMap_singleton,
        List.map_flatMap]
      apply List.flatMap_congr
      intro child _
      cases child with
      | background value => rfl
      | scenario value => rfl
      | rule value =>
          simp only [FeatureChild.steps, List.map_flatMap]
          apply List.flatMap_congr
          intro inner _
          cases inner <;> rfl

end Document

theorem Step.id_sublist (steps : List (Step Nat)) :
    (steps.map (·.id)).Sublist
      ((steps.flatMap Step.declared).map Declaration.id) := by
  rw [List.map_eq_flatMap, List.map_flatMap]
  apply List.Sublist.flatMap_right
  intro step _
  rw [Step.declared, List.map_append]
  exact List.sublist_append_right _ _

theorem RuleChild.stepIds_sublist (child : RuleChild Nat) :
    (child.steps.map (·.id)).Sublist
      (child.declared.map Declaration.id) := by
  cases child with
  | background value =>
      apply List.Sublist.cons
      exact Step.id_sublist value.steps
  | scenario value =>
      have own := Step.id_sublist value.steps
      simp only [declared, Scenario.declared, List.cons_append,
        List.map_cons, List.map_append]
      apply List.Sublist.cons
      apply List.sublist_append_of_sublist_left
      exact List.sublist_append_of_sublist_right own

theorem FeatureChild.stepIds_sublist (child : FeatureChild Nat) :
    (child.steps.map (·.id)).Sublist
      (child.declared.map Declaration.id) := by
  cases child with
  | background value => exact (RuleChild.background value).stepIds_sublist
  | scenario value => exact (RuleChild.scenario value).stepIds_sublist
  | rule value =>
      rw [declared, Rule.declared, List.map_append, steps, List.map_flatMap,
        List.map_flatMap]
      apply List.sublist_append_of_sublist_left
      apply List.Sublist.flatMap_right
      intro child _
      exact child.stepIds_sublist

/-- Steps have identifiers of their own, if all nodes have. -/
theorem Document.nodup_stepIds {document : Document Nat}
    (distinct : (document.declared.map Declaration.id).Nodup) :
    (document.steps.map (·.id)).Nodup := by
  refine List.Nodup.sublist ?_ distinct
  rw [steps, declared, List.map_flatMap, List.map_flatMap]
  apply List.Sublist.flatMap_right
  intro feature _
  rw [Feature.declared, List.map_append, List.map_flatMap, List.map_flatMap]
  apply List.sublist_append_of_sublist_left
  apply List.Sublist.flatMap_right
  intro child _
  exact child.stepIds_sublist

/-- What belongs to a step is found by its identifier. -/
theorem Step.lookup_line {steps : List (Step Nat)}
    (distinct : (steps.map (·.id)).Nodup) {step : Step Nat}
    (member : step ∈ steps) :
    (steps.map fun step => (step.id, step.location.line)).lookup step.id =
      some step.location.line := by
  induction steps with
  | nil => cases member
  | cons first others ih =>
      obtain ⟨fresh, rest⟩ := List.nodup_cons.mp distinct
      rw [List.map_cons, List.lookup_cons]
      rcases List.mem_cons.mp member with rfl | later
      · simp
      · have other : step.id ≠ first.id := by
          intro same
          apply fresh
          exact List.mem_map.mpr ⟨step, later, same⟩
        rw [beq_false_of_ne other]
        exact ih rest later

/-- The line of a step of a pickle is that of the step it is made from. -/
theorem Document.lineOf_eq {document : Document Nat}
    (distinct : (document.declared.map Declaration.id).Nodup)
    {step : Step Nat} (member : step ∈ document.steps)
    {change : String → String} {row : Option Nat} {made : PickleStep Nat}
    (becomes : step.Becomes change row made) :
    document.lineOf made = step.location.line := by
  unfold lineOf
  rw [becomes.nodeIds, List.head?_cons, Option.bind_some, stepLines_eq,
    Step.lookup_line (nodup_stepIds distinct) member, Option.getD_some]

/-! ## Files that have been read -/

theorem RuleChild.steps_bare (child : RuleChild Nat) :
    child.bare.steps = child.steps.map Step.bare := by
  cases child <;> rfl

theorem FeatureChild.steps_bare (child : FeatureChild Nat) :
    child.bare.steps = child.steps.map Step.bare := by
  cases child with
  | background value => rfl
  | scenario value => rfl
  | rule value =>
      simp only [bare, steps, Rule.bare, List.flatMap_map, List.map_flatMap]
      apply List.flatMap_congr
      intro child _
      exact child.steps_bare

theorem Document.steps_bare (document : Document Nat) :
    document.bare.steps = document.steps.map Step.bare := by
  unfold Document.steps bare
  cases document.feature with
  | none => rfl
  | some feature =>
      simp only [Option.map_some, Option.toList_some,
        List.flatMap_singleton, Feature.bare, List.flatMap_map,
        List.map_flatMap]
      apply List.flatMap_congr
      intro child _
      exact child.steps_bare

/-- A step of a pickle has the line of a step of the document. -/
structure FeatureFile.Locates (file : FeatureFile) (step : Step Nat)
    (made : PickleStep Nat) : Prop where
  member : step ∈ file.document.steps
  becomes : ∃ change row, step.Becomes change row made
  line : file.document.lineOf made = step.location.line
  onLine : step.OnLine

/--
Every step of a pickle of a file is made from a step of the document, and its
line is that of this step.
-/
theorem FeatureFile.lines_of_parse [LocatedSyntax] {uri source : String}
    {first next : Nat} {file : FeatureFile}
    (parsed : parse uri source first = .ok (file, next)) :
    ∀ pickle ∈ file.pickles, ∀ made ∈ pickle.steps,
      ∃ step, file.Locates step made := by
  intro pickle member made among
  obtain ⟨read, number, compiled⟩ := bare_of_parse parsed
  have distinct := (owns_of_parse parsed).distinct
  rw [← compiled] at member
  obtain ⟨step, listed, change, row, becomes⟩ :=
    file.document.pickles_comeFrom number pickle member made among
  have onLine : step.OnLine := by
    have bare : step.bare ∈ file.document.bare.steps := by
      rw [file.document.steps_bare]
      exact List.mem_map_of_mem listed
    exact steps_on_lines read step.bare bare
  exact ⟨step, listed, ⟨change, row, becomes⟩,
    Document.lineOf_eq distinct listed becomes, onLine⟩

end ScenarioRunner
