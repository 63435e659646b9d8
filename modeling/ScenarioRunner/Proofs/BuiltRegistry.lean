import ScenarioRunner.Project.Library
import ScenarioRunner.Proofs.ParameterTypes

/-!
# Registries that are built

The parameter types of a registry that is built of definitions were accepted
one after the other, and its step definitions are compiled against all of them.

The main statement is `Registry.built_of_ofDefinitions`.
-/

namespace ScenarioRunner

variable {Host : Type}

/-- A registry as it is built of definitions. -/
structure Registry.Built (registry : Registry Host) : Prop where
  defined : registry.parameters.Defined
  compiled : ∀ definition ∈ registry.steps, ∃ pattern : StepPattern,
    pattern.compile registry.parameters = .ok definition.expression

namespace RegistryBuilder

/-- A definition adds a parameter type that is accepted, or none. -/
theorem defined_of_add {builder : RegistryBuilder Host} {next : Nat}
    {definition : Definition Host} {extended : RegistryBuilder Host × Nat}
    (defined : builder.parameters.Defined)
    (added : builder.add next definition = .ok extended) :
    extended.1.parameters.Defined := by
  cases definition with
  | step source body site =>
      simp only [add, bind, Except.bind, defineStep] at added
      cases compiled : source.pattern with
      | error reason => simp [compiled] at added
      | ok pattern =>
          simp only [compiled] at added
          split at added
          · cases added
          · rename_i defines
            split at defines
            · cases defines
            · cases defines
              cases added
              exact defined
  | hook keyword tags body site =>
      simp only [add, defineHook] at added
      cases filter : parseFilter keyword (hookFilter tags) with
      | error reason => simp [filter, Except.map] at added
      | ok tags =>
          simp only [filter, Except.map, Except.ok.injEq] at added
          rw [← added]
          exact defined
  | parameter value =>
      simp only [add, bind, Except.bind, defineParameter] at added
      cases accepted : builder.parameters.define value with
      | error reason => simp [accepted] at added
      | ok parameters =>
          simp only [accepted, pure, Except.pure, Except.ok.injEq] at added
          rw [← added]
          exact defined.define accepted

theorem defined_of_addAll {definitions : List (Definition Host)}
    {builder : RegistryBuilder Host} {next : Nat}
    {last : RegistryBuilder Host × Nat}
    (defined : builder.parameters.Defined)
    (added : builder.addAll next definitions = .ok last) :
    last.1.parameters.Defined := by
  induction definitions generalizing builder next with
  | nil =>
      cases added
      exact defined
  | cons definition others ih =>
      simp only [addAll, List.foldlM_cons, bind, Except.bind] at added
      cases own : builder.add next definition with
      | error reason => simp [own] at added
      | ok extended =>
          simp only [own] at added
          exact ih (defined_of_add defined own) added

theorem compiled_of_compileSteps {parameters : ParameterRegistry}
    {steps : List (PendingStep Host)} {next last : Nat}
    {compiled : List (StepDefinition Host)}
    (done : compileSteps parameters steps next = .ok (compiled, last)) :
    ∀ definition ∈ compiled, ∃ pattern : StepPattern,
      pattern.compile parameters = .ok definition.expression := by
  induction steps generalizing compiled next last with
  | nil =>
      cases done
      exact nofun
  | cons step others ih =>
      simp only [compileSteps, bind, Except.bind] at done
      cases own : step.pattern.compile parameters with
      | error reason => simp [own] at done
      | ok expression =>
          cases rest : compileSteps parameters others (next + 1) with
          | error reason => simp [own, rest] at done
          | ok found =>
              simp only [own, rest, pure, Except.pure, Except.ok.injEq,
                Prod.mk.injEq] at done
              rw [← done.1, List.forall_mem_cons]
              exact ⟨⟨step.pattern, own⟩, ih rest⟩

end RegistryBuilder

/-- A registry that is made of definitions is built. -/
theorem Registry.built_of_ofDefinitions {definitions : List (Definition Host)}
    {next last : Nat} {registry : Registry Host}
    (made : ofDefinitions definitions next = .ok (registry, last)) :
    registry.Built := by
  unfold ofDefinitions at made
  cases added : RegistryBuilder.addAll {} next definitions with
  | error reason => simp [added] at made
  | ok collected =>
      have defined := RegistryBuilder.defined_of_addAll .builtin added
      cases done : RegistryBuilder.compileSteps collected.1.parameters
          collected.1.steps collected.2 with
      | error reason =>
          simp [added, RegistryBuilder.finalize, done, Except.map,
            Except.mapError] at made
      | ok compiled =>
          simp only [added, RegistryBuilder.finalize, done, Except.map,
            Except.mapError, Except.ok.injEq, Prod.mk.injEq] at made
          rw [← made.1]
          exact ⟨defined, RegistryBuilder.compiled_of_compileSteps done⟩

/-- A registry that is built of source files is built of definitions. -/
theorem StepLibrary.built_of_build {library : StepLibrary Host}
    {paths : List String} {next last : Nat} {registry : Registry Host}
    (made : library.build paths next = .ok (registry, last)) :
    registry.Built := by
  unfold build at made
  cases own : Registry.ofDefinitions (paths.flatMap library.definitions) next
    with
  | error reason => simp [own, Except.mapError] at made
  | ok found =>
      simp only [own, Except.mapError, Except.ok.injEq] at made
      rw [made] at own
      exact Registry.built_of_ofDefinitions own

end ScenarioRunner
