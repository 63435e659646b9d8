import Mathlib.Logic.Relation
import ScenarioRunner.Proofs.FileIdentifiers
import ScenarioRunner.Proofs.ProposedDefinitions

/-!
# Preparing tests

Before tests can be composed, feature files are read and definitions are
collected and compiled.  All of them draw identifiers from one supply, and they
may do so in any order: a file may be read before the first definition, between
two of them, or once all are compiled.

The main statement is `Preparation.Reaches.sound`: whatever the order, the
identifiers of a file and of the definitions are distinct.
-/

namespace ScenarioRunner

variable {Host : Type}

/-! ## Identifiers of definitions -/

/-- What hooks declare. -/
def Hook.declared (hook : Hook Host) : Declaration := ⟨.hook, hook.id⟩

def StepDefinition.declared (definition : StepDefinition Host) :
    Declaration :=
  ⟨.stepDefinition, definition.id⟩

/-- Step definitions are not numbered until they are compiled. -/
def RegistryBuilder.declared (builder : RegistryBuilder Host) :
    List Declaration :=
  builder.hooks.map Hook.declared

def Registry.declared (registry : Registry Host) : List Declaration :=
  registry.steps.map StepDefinition.declared ++
    registry.hooks.map Hook.declared

namespace RegistryBuilder

/-- A hook has the identifier that it draws. -/
theorem id_of_judge {parameters : ParameterRegistry}
    {definition : Definition Host} {make : Nat → Hook Host}
    (judged : definition.judge parameters = .ok (.hook make)) (id : Nat) :
    (make id).id = id := by
  cases definition with
  | step source body site =>
      simp only [Definition.judge] at judged
      split at judged
      · cases judged
      · split at judged <;> cases judged
  | hook keyword tags body site =>
      simp only [Definition.judge] at judged
      split at judged <;> cases judged
      rfl
  | parameter value =>
      simp only [Definition.judge] at judged
      split at judged <;> cases judged

/-- A definition that is accepted draws what it declares. -/
theorem add_draws {builder extended : RegistryBuilder Host}
    {first next : Nat} {definition : Definition Host}
    (added : builder.add first definition = .ok (extended, next)) :
    ∃ count,
      next = first + count ∧
        extended.declared.map Declaration.id =
          builder.declared.map Declaration.id ++
            List.range' first count := by
  rw [add_eq_judge] at added
  cases judged : definition.judge builder.parameters with
  | error reason => simp [judged, Except.map] at added
  | ok admission =>
      simp only [judged, Except.map, Except.ok.injEq] at added
      cases admission with
      | step value =>
          obtain ⟨rfl, rfl⟩ := Prod.mk.inj added
          exact ⟨0, rfl, (List.append_nil _).symm⟩
      | hook make =>
          obtain ⟨rfl, rfl⟩ := Prod.mk.inj added
          refine ⟨1, rfl, ?_⟩
          simp [declared, Hook.declared, id_of_judge judged]
      | parameters extended =>
          obtain ⟨rfl, rfl⟩ := Prod.mk.inj added
          exact ⟨0, rfl, (List.append_nil _).symm⟩

/-- Compiled step definitions are numbered in order. -/
theorem compileSteps_draws {parameters : ParameterRegistry}
    {steps : List (PendingStep Host)}
    {compiled : List (StepDefinition Host)} {first next : Nat}
    (done : compileSteps parameters steps first = .ok (compiled, next)) :
    ∃ count,
      next = first + count ∧
        compiled.map (·.id) = List.range' first count := by
  induction steps generalizing compiled first next with
  | nil =>
      simp only [compileSteps, Except.ok.injEq, Prod.mk.injEq] at done
      obtain ⟨rfl, rfl⟩ := done
      exact ⟨0, rfl, rfl⟩
  | cons step others ih =>
      cases own : step.pattern.compile parameters with
      | error reason =>
          simp [compileSteps, own, bind, Except.bind] at done
      | ok expression =>
          cases rest : compileSteps parameters others (first + 1) with
          | error reason =>
              simp [compileSteps, own, rest, bind, Except.bind] at done
          | ok found =>
              obtain ⟨later, last⟩ := found
              simp only [compileSteps, own, rest, bind, Except.bind, pure,
                Except.pure, Except.ok.injEq, Prod.mk.injEq] at done
              obtain ⟨rfl, rfl⟩ := done
              obtain ⟨count, advanced, drawn⟩ := ih rest
              refine ⟨count + 1, by omega, ?_⟩
              rw [List.map_cons, drawn, List.range'_succ]

/-- Compiling draws the identifiers of the step definitions. -/
theorem finalize_draws {builder : RegistryBuilder Host}
    {registry : Registry Host} {first next : Nat}
    (compiled : builder.finalize first = .ok (registry, next)) :
    ∃ count,
      next = first + count ∧
        registry.declared.map Declaration.id =
          List.range' first count ++
            builder.declared.map Declaration.id := by
  cases steps : compileSteps builder.parameters builder.steps first with
  | error reason => simp [finalize, steps, Except.map] at compiled
  | ok found =>
      simp only [finalize, steps, Except.map, Except.ok.injEq,
        Prod.mk.injEq] at compiled
      obtain ⟨rfl, rfl⟩ := compiled
      obtain ⟨count, advanced, drawn⟩ := compileSteps_draws steps
      refine ⟨count, advanced, ?_⟩
      simp [Registry.declared, declared, StepDefinition.declared, ← drawn,
        Function.comp_def]

end RegistryBuilder

/-! ## Steps of the preparation -/

/-- Definitions that are being collected or have been compiled. -/
inductive Definitions (Host : Type) where
  | collected (builder : RegistryBuilder Host)
  | compiled (registry : Registry Host)

/-- What the definitions declare. -/
def Definitions.declared : Definitions Host → List Declaration
  | .collected builder => builder.declared
  | .compiled registry => registry.declared

/-- The definitions and the files so far, with the next identifier. -/
structure Preparation (Host : Type) where
  definitions : Definitions Host
  files : List FeatureFile
  next : Nat

namespace Preparation

/-- Nothing is defined or read. -/
def start (next : Nat) : Preparation Host := ⟨.collected {}, [], next⟩

/-- What can happen before tests are composed. -/
inductive Step [FeatureSyntax] : Preparation Host → Preparation Host →
    Prop where
  | define {builder extended : RegistryBuilder Host}
      {files : List FeatureFile} {next later : Nat}
      (definition : Definition Host)
      (added : builder.add next definition = .ok (extended, later)) :
      Step ⟨.collected builder, files, next⟩
        ⟨.collected extended, files, later⟩
  | compile {builder : RegistryBuilder Host} {registry : Registry Host}
      {files : List FeatureFile} {next later : Nat}
      (compiled : builder.finalize next = .ok (registry, later)) :
      Step ⟨.collected builder, files, next⟩
        ⟨.compiled registry, files, later⟩
  | read {definitions : Definitions Host} {files : List FeatureFile}
      {next later : Nat} (uri source : String) {file : FeatureFile}
      (parsed : FeatureFile.parse uri source next = .ok (file, later)) :
      Step ⟨definitions, files, next⟩
        ⟨definitions, files ++ [file], later⟩
  /-- Something else draws identifiers from the supply. -/
  | draw {definitions : Definitions Host} {files : List FeatureFile}
      {next later : Nat} (advanced : next ≤ later) :
      Step ⟨definitions, files, next⟩ ⟨definitions, files, later⟩

/-- Steps lead from one state of the preparation to another. -/
abbrev Reaches [FeatureSyntax] : Preparation Host → Preparation Host → Prop :=
  Relation.ReflTransGen Step

/-- The identifiers of the definitions are distinct, and so are those of each
file together with them. -/
structure Sound (preparation : Preparation Host) : Prop where
  definitions :
    Numbered preparation.next
      (preparation.definitions.declared.map Declaration.id)
  files : ∀ file ∈ preparation.files,
    file.Refers ∧
      Numbered preparation.next
        (file.declared.map Declaration.id ++
          preparation.definitions.declared.map Declaration.id)

/-- A step preserves that identifiers are distinct. -/
theorem Step.sound [FeatureSyntax] {before after : Preparation Host}
    (step : Step before after) (sound : before.Sound) : after.Sound := by
  cases step with
  | define definition added =>
      obtain ⟨count, rfl, drawn⟩ := RegistryBuilder.add_draws added
      constructor
      · simp only [Definitions.declared, drawn]
        exact sound.definitions.append count
      · intro file member
        obtain ⟨refers, numbered⟩ := sound.files file member
        refine ⟨refers, ?_⟩
        simp only [Definitions.declared, drawn, ← List.append_assoc]
        exact numbered.append count
  | compile compiled =>
      obtain ⟨count, rfl, drawn⟩ := RegistryBuilder.finalize_draws compiled
      constructor
      · simp only [Definitions.declared, drawn]
        exact sound.definitions.prepend count
      · intro file member
        obtain ⟨refers, numbered⟩ := sound.files file member
        refine ⟨refers, ?_⟩
        simp only [Definitions.declared, drawn, ← List.append_assoc]
        exact .insert _ _ numbered count
  | read uri source parsed =>
      obtain ⟨refers, count, rfl, drawn⟩ :=
        FeatureFile.parse_identifiers parsed
      constructor
      · exact sound.definitions.mono (Nat.le_add_right _ count)
      · intro file member
        rcases List.mem_append.mp member with old | new
        · obtain ⟨oldRefers, numbered⟩ := sound.files file old
          exact ⟨oldRefers, numbered.mono (Nat.le_add_right _ count)⟩
        · cases List.mem_singleton.mp new
          refine ⟨refers, ?_⟩
          rw [drawn]
          exact sound.definitions.prepend count
  | draw advanced =>
      constructor
      · exact sound.definitions.mono advanced
      · intro file member
        obtain ⟨refers, numbered⟩ := sound.files file member
        exact ⟨refers, numbered.mono advanced⟩

theorem start_sound (next : Nat) :
    (start next : Preparation Host).Sound where
  definitions := .nil next
  files := List.forall_mem_nil _

/-- Steps preserve that identifiers are distinct. -/
theorem Reaches.sound [FeatureSyntax] {before after : Preparation Host}
    (reaches : Reaches before after) (sound : before.Sound) :
    after.Sound := by
  induction reaches with
  | refl => exact sound
  | tail _ step ih => exact step.sound ih

end Preparation

end ScenarioRunner
