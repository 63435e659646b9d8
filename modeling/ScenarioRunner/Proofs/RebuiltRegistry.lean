import Mathlib.Data.List.Basic
import ScenarioRunner.Project.Library
import ScenarioRunner.Proofs.ProposedDefinitions

/-!
# Building a registry with other numbers

A registry may be built several times from the same source files, each time
with other numbers.  The registries have the same step definitions, in the same
order, except for their identifiers, so the same ones match a text.

The main statement is `StepLibrary.build_agrees`.
-/

namespace ScenarioRunner

variable {Host : Type}

/-! ## Definitions without identifiers -/

/-- A definition with zero in place of its identifier. -/
def StepDefinition.unnumbered (definition : StepDefinition Host) :
    StepDefinition Host :=
  { definition with id := 0 }

/-- Two lists of definitions differ in identifiers only. -/
def SameDefinitions (first second : List (StepDefinition Host)) : Prop :=
  first.map StepDefinition.unnumbered =
    second.map StepDefinition.unnumbered

namespace SameDefinitions

variable {first second : List (StepDefinition Host)}

theorem length (same : SameDefinitions first second) :
    first.length = second.length := by
  simpa using congrArg List.length same

/-- What does not depend on identifiers is the same of both. -/
theorem map {Shown : Type} (same : SameDefinitions first second)
    (shown : StepDefinition Host → Shown)
    (independent : ∀ definition,
      shown definition.unnumbered = shown definition) :
    first.map shown = second.map shown := by
  have through (definitions : List (StepDefinition Host)) :
      definitions.map shown =
        (definitions.map StepDefinition.unnumbered).map shown := by
    rw [List.map_map]
    apply List.map_congr_left
    intro definition _
    exact (independent definition).symm
  rw [through first, through second, same]

end SameDefinitions

/-- The same definitions match a text in registries that have the same. -/
theorem Registry.matching_agrees {registry other : Registry Host}
    (same : SameDefinitions registry.steps other.steps) (text : String) :
    SameDefinitions (registry.matching text) (other.matching text) := by
  have through (steps : List (StepDefinition Host)) :
      (steps.filter (·.isMatch text)).map StepDefinition.unnumbered =
        (steps.map StepDefinition.unnumbered).filter (·.isMatch text) := by
    rw [List.filter_map]
    rfl
  rw [SameDefinitions, matching, matching, through, through, same]

/-! ## Building twice -/

namespace RegistryBuilder

/-- Definitions that are all accepted lead where proposing them leads. -/
theorem behind_of_addAll {definitions : List (Definition Host)}
    {builder : RegistryBuilder Host} {next : Nat} {last : State Host}
    (added : builder.addAll next definitions = .ok last) :
    behind (builder, next) definitions = last := by
  induction definitions generalizing builder next with
  | nil =>
      cases added
      rfl
  | cons definition others ih =>
      simp only [addAll, List.foldlM_cons] at added
      cases own : builder.add next definition with
      | error reason => simp [own, bind, Except.bind] at added
      | ok middle =>
          rw [own] at added
          have rest : middle.1.addAll middle.2 others = .ok last := added
          have proposed :
              (builder.propose next definition).2 = middle := by
            simp [propose, own]
          rw [behind_cons, proposed]
          exact ih rest

/-- What is collected of a kind depends on what there was of the kind. -/
theorem AgreeOn.behind {kind : DefinitionKind} {first second : State Host}
    (agree : AgreeOn kind first second)
    (definitions : List (Definition Host)) :
    AgreeOn kind (RegistryBuilder.behind first definitions)
      (RegistryBuilder.behind second definitions) := by
  have own := (agree.proposals_ofKind definitions).2
  have other := ((AgreeOn.refl kind second).proposals_ofKind definitions).2
  exact own.trans other.symm

theorem compileSteps_agrees {parameters : ParameterRegistry}
    {steps : List (PendingStep Host)} {first second next last : Nat}
    {compiled other : List (StepDefinition Host)}
    (done : compileSteps parameters steps first = .ok (compiled, next))
    (redone : compileSteps parameters steps second = .ok (other, last)) :
    SameDefinitions compiled other := by
  induction steps generalizing compiled other first second next last with
  | nil =>
      cases done
      cases redone
      rfl
  | cons step others ih =>
      simp only [compileSteps, bind, Except.bind] at done redone
      cases own : step.pattern.compile parameters with
      | error reason => simp [own] at done
      | ok expression =>
          simp only [own] at done redone
          cases rest : compileSteps parameters others (first + 1) with
          | error reason => simp [rest] at done
          | ok found =>
              cases again : compileSteps parameters others (second + 1) with
              | error reason => simp [again] at redone
              | ok refound =>
                  simp only [rest, again, pure, Except.pure,
                    Except.ok.injEq, Prod.mk.injEq] at done redone
                  obtain ⟨rfl, -⟩ := done
                  obtain ⟨rfl, -⟩ := redone
                  have same := ih rest again
                  rw [SameDefinitions, List.map_cons, List.map_cons, same]
                  rfl

/-- Builders of the same parameter types and steps give registries of the same
parameter types and steps. -/
theorem finalize_agrees {builder rebuilder : RegistryBuilder Host}
    (parameters : builder.parameters = rebuilder.parameters)
    (steps : builder.steps = rebuilder.steps)
    {first second next last : Nat} {registry other : Registry Host}
    (built : builder.finalize first = .ok (registry, next))
    (rebuilt : rebuilder.finalize second = .ok (other, last)) :
    registry.parameters = other.parameters ∧
      SameDefinitions registry.steps other.steps := by
  simp only [finalize, ← parameters, ← steps] at built rebuilt
  cases own : compileSteps builder.parameters builder.steps first with
  | error reason => simp [own, Except.map] at built
  | ok compiled =>
      cases again : compileSteps builder.parameters builder.steps second with
      | error reason => simp [again, Except.map] at rebuilt
      | ok recompiled =>
          simp only [own, again, Except.map, Except.ok.injEq,
            Prod.mk.injEq] at built rebuilt
          obtain ⟨rfl, -⟩ := built
          obtain ⟨rfl, -⟩ := rebuilt
          exact ⟨rfl, compileSteps_agrees own again⟩

end RegistryBuilder

/-- Registries of the same definitions have the same parameter types and
steps. -/
theorem Registry.ofDefinitions_agrees {definitions : List (Definition Host)}
    {first second next last : Nat} {registry other : Registry Host}
    (built : ofDefinitions definitions first = .ok (registry, next))
    (rebuilt : ofDefinitions definitions second = .ok (other, last)) :
    registry.parameters = other.parameters ∧
      SameDefinitions registry.steps other.steps := by
  unfold ofDefinitions at built rebuilt
  cases added : RegistryBuilder.addAll {} first definitions with
  | error reason => simp [added] at built
  | ok collected =>
      cases readded : RegistryBuilder.addAll {} second definitions with
      | error reason => simp [readded] at rebuilt
      | ok recollected =>
          -- Only hooks draw identifiers when they are taken in.
          have agree (kind : DefinitionKind)
              (start : RegistryBuilder.AgreeOn kind
                (({}, first) : RegistryBuilder.State Host)
                ({}, second)) :
              RegistryBuilder.AgreeOn kind collected recollected := by
            have behind := start.behind definitions
            rwa [RegistryBuilder.behind_of_addAll added,
              RegistryBuilder.behind_of_addAll readded] at behind
          cases own : collected.1.finalize collected.2 with
          | error reason => simp [added, own, Except.mapError] at built
          | ok found =>
              cases again : recollected.1.finalize recollected.2 with
              | error reason =>
                  simp [readded, again, Except.mapError] at rebuilt
              | ok refound =>
                  simp only [added, readded, own, again, Except.mapError,
                    Except.ok.injEq] at built rebuilt
                  subst built rebuilt
                  exact RegistryBuilder.finalize_agrees
                    (agree .parameter rfl) (agree .step rfl) own again

namespace StepLibrary

/--
Registries that are built of the same source files have the same parameter
types, and the same step definitions except for their identifiers.
-/
theorem build_agrees {library : StepLibrary Host} {paths : List String}
    {first second next last : Nat} {registry other : Registry Host}
    (built : library.build paths first = .ok (registry, next))
    (rebuilt : library.build paths second = .ok (other, last)) :
    registry.parameters = other.parameters ∧
      SameDefinitions registry.steps other.steps := by
  unfold build at built rebuilt
  cases own : Registry.ofDefinitions (paths.flatMap library.definitions)
      first with
  | error reason => simp [own, Except.mapError] at built
  | ok found =>
      cases again : Registry.ofDefinitions
          (paths.flatMap library.definitions) second with
      | error reason => simp [again, Except.mapError] at rebuilt
      | ok refound =>
          simp only [own, again, Except.mapError, Except.ok.injEq]
            at built rebuilt
          subst built rebuilt
          exact Registry.ofDefinitions_agrees own again

end StepLibrary

end ScenarioRunner
