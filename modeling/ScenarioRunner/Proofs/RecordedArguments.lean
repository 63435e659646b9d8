import ScenarioRunner.Diagnosis.Report
import ScenarioRunner.Proofs.DiagnosisAgreement

/-!
# Arguments of steps that are recorded

A diagnosis records the kind of the argument of each step that has no
definition, and offers it in the definitions that it suggests.  When tests are
run, the implementation of the step receives an argument of that kind.  The two
differ for a step with a quoted text that is empty: the text is recorded, and
the implementation receives nothing.

The main statement is `Project.diagnose_arguments`.
-/

namespace ScenarioRunner

/-! ## Kinds of arguments -/

/-- The kind of an argument. -/
def StepArgument.argumentKind : StepArgument → ArgumentKind
  | .dataTable _ => .dataTable
  | .docString _ => .docString

@[simp]
theorem StepArgument.name_argumentKind (argument : StepArgument) :
    argument.argumentKind.name = argument.kind := by
  cases argument <;> rfl

namespace PickleStep

variable {Id : Type}

/-- A step has a quoted text without any characters, and no table. -/
def HasEmptyText (step : PickleStep Id) : Prop :=
  step.argument = some { docString := some "", table := none }

/-- An empty text is recorded, although it is no argument. -/
theorem recordedKind_of_hasEmptyText {step : PickleStep Id}
    (empty : step.HasEmptyText) :
    step.argument.bind (·.kind?) = some .docString ∧
      step.stepArgument = none := by
  rw [stepArgument, empty]
  exact ⟨rfl, rfl⟩

/-- The kind that is recorded of any other step is that of its argument. -/
theorem recordedKind_of_not_hasEmptyText {step : PickleStep Id}
    (other : ¬ step.HasEmptyText) :
    step.argument.bind (·.kind?) =
      step.stepArgument.map (·.argumentKind) := by
  unfold HasEmptyText at other
  unfold stepArgument
  generalize step.argument = argument at other ⊢
  rcases argument with _ | ⟨_ | content, _ | rows⟩
  · rfl
  · rfl
  · rfl
  · have written : content.isEmpty = false := by
      rw [Bool.eq_false_iff, ne_eq, String.isEmpty_iff]
      rintro rfl
      exact other rfl
    simp [PickleArgument.kind?, StepArgument.ofPickle, written,
      StepArgument.argumentKind]
  · rfl

/-- The implementation of a step receives an argument: if the text of the step
resolves to a definition that captures values from it, the body of this
definition is what acts on the host when the step is played. -/
def Receives (step : PickleStep Nat) (argument : Option StepArgument) : Prop :=
  ∀ (Host : Type) (spec : Spec Host) (executable : Executable Host)
    (started id : Nat) (running : Running Host)
    (definition : StepDefinition Host) (captures : List CapturedValue),
    spec.registry.resolve step.text = .ok definition →
      definition.captures step.text = .ok captures →
        (executable.playStep spec started id step running).2.stage.host =
          (definition.body
            { scope := .inTest executable.pickle started id (some step)
              captures, argument } running.stage.host).host

theorem receives_stepArgument (step : PickleStep Nat) :
    step.Receives step.stepArgument := by
  intro Host spec executable started id running definition captures resolved
    captured
  have host : (running.begin started id).stage.host = running.stage.host :=
    rfl
  unfold Executable.playStep
  simp only [Registry.run, resolved, captured, Except.map, host]
  generalize definition.body _ running.stage.host = performance
  rcases performance with ⟨final, attachments, outcome | _ | _ | _⟩
  · cases outcome <;> rfl
  · rfl
  · rfl
  · rfl

end PickleStep

/-! ## Steps without definitions -/

/-- What is recorded of a step tells the argument that an implementation of the
step receives, and so does what is suggested for it.  Only of an empty text the
kind is recorded without an argument. -/
structure UnmatchedStep.TellsArgument (unmatched : UnmatchedStep)
    (step : PickleStep Nat) : Prop where
  text : unmatched.step.text = step.text
  kind : ¬ step.HasEmptyText →
    unmatched.argument.map (·.name) = step.stepArgument.map (·.kind)
  offered : ¬ step.HasEmptyText → ∀ suggestion,
    unmatched.argumentNames suggestion =
      ", ".intercalate (suggestion.argumentNames ++
        (step.stepArgument.map (·.kind)).toList)
  emptyText : step.HasEmptyText →
    unmatched.argument = some .docString ∧ step.stepArgument = none

namespace DiagnosedFile

variable {Host : Type}

/-- The steps of a file that no definition matches. -/
def unmatchedSteps (found : DiagnosedFile Host) : List (PickleStep Nat) :=
  found.steps.filter fun step => (found.registry.matching step.text).isEmpty

variable (found : DiagnosedFile Host)

/-- What is recorded of a step that no definition matches. -/
theorem unmatched?_record_of_missing {step : PickleStep Nat}
    (missing : found.registry.matching step.text = []) :
    ∃ unmatched, (found.record step).unmatched? = some unmatched ∧
      unmatched.TellsArgument step := by
  refine ⟨_, by rw [record, StepRecord.make, missing]; rfl, ?_⟩
  constructor
  case text => rfl
  case kind =>
    intro other
    dsimp only
    rw [PickleStep.recordedKind_of_not_hasEmptyText other, Option.map_map]
    simp [Function.comp_def]
  case offered =>
    intro other suggestion
    rw [UnmatchedStep.argumentNames]
    dsimp only
    rw [PickleStep.recordedKind_of_not_hasEmptyText other]
    cases step.stepArgument <;> simp
  case emptyText => exact PickleStep.recordedKind_of_hasEmptyText

theorem unmatched?_record_of_matched {step : PickleStep Nat}
    (matched : found.registry.matching step.text ≠ []) :
    (found.record step).unmatched? = none := by
  unfold record StepRecord.make
  split
  · rename_i missing
    exact absurd missing matched
  · rfl
  · rfl

/-- Each step that no definition matches is recorded as unmatched, in order. -/
theorem unmatched_records :
    List.Forall₂ (fun step unmatched => unmatched.TellsArgument step)
      found.unmatchedSteps
      (found.records.filterMap StepRecord.unmatched?) := by
  unfold unmatchedSteps records
  induction found.steps with
  | nil => exact .nil
  | cons step others ih =>
      rw [List.map_cons]
      by_cases missing : found.registry.matching step.text = []
      · obtain ⟨unmatched, recorded, tells⟩ :=
          found.unmatched?_record_of_missing missing
        rw [List.filter_cons_of_pos (by simp [missing]),
          List.filterMap_cons_some recorded]
        exact .cons tells ih
      · rw [List.filter_cons_of_neg (by simp [missing]),
          List.filterMap_cons_none
            (found.unmatched?_record_of_matched missing)]
        exact ih

end DiagnosedFile

/-- The steps that a diagnosis records as unmatched are those of the files that
no definition matches. -/
theorem Diagnosis.unmatched_ofFiles {Host : Type}
    (files : List (DiagnosedFile Host)) :
    List.Forall₂ (fun step unmatched => unmatched.TellsArgument step)
      (files.flatMap (·.unmatchedSteps)) (ofFiles files).unmatched := by
  have listed : (ofFiles files).unmatched =
      (files.flatMap (·.records)).filterMap StepRecord.unmatched? := rfl
  rw [listed]
  induction files with
  | nil => exact .nil
  | cons found others ih =>
      rw [List.flatMap_cons, List.flatMap_cons, List.filterMap_append]
      exact List.rel_append found.unmatched_records (ih rfl)

/-! ## Files that are read again -/

/-- The steps of a file that is diagnosed and those of a file that is run
correspond: they have the same text, and the implementation of the step that is
run receives the argument of the other. -/
def DiagnosedFile.ArgumentsReach {Host : Type} (found : DiagnosedFile Host)
    (file : FeatureFile) : Prop :=
  List.Forall₂
    (fun diagnosed pickle =>
      List.Forall₂
        (fun own step =>
          step.text = own.text ∧ step.Receives own.stepArgument)
        diagnosed.steps pickle.steps)
    found.file.pickles file.pickles

theorem DiagnosedFile.argumentsReach_of_sameContent {Host : Type}
    {found : DiagnosedFile Host} {file : FeatureFile}
    (content : SameContent found.file.pickles file.pickles) :
    found.ArgumentsReach file := by
  refine (forall₂_of_map_eq content).imp ?_
  intro diagnosed pickle equal
  have steps :
      diagnosed.steps.map PickleStep.content =
        pickle.steps.map PickleStep.content :=
    congrArg PickleContent.steps equal
  refine (forall₂_of_map_eq steps).imp ?_
  intro own step equal
  have argument : own.argument = step.argument :=
    congrArg StepContent.argument equal
  refine ⟨(congrArg StepContent.text equal).symm, ?_⟩
  rw [PickleStep.stepArgument, argument]
  exact step.receives_stepArgument

namespace Project

variable {Host : Type} {project : Project} {templates : List String}
  {library : StepLibrary Host}

theorem Inspects.argumentsReach [FeatureSyntax] {path : String}
    {found : DiagnosedFile Host}
    (inspects : project.Inspects templates library path found) {uri : String}
    {first next : Nat} {file : FeatureFile}
    (read : project.readFeature path uri first = .ok (file, next)) :
    found.ArgumentsReach file := by
  obtain ⟨text, own, parsed⟩ := exists_of_readFeature read
  obtain ⟨_, diagnosed⟩ := inspects.read
  obtain ⟨otherText, other, reparsed⟩ := exists_of_readFeature diagnosed
  cases own.symm.trans other
  exact DiagnosedFile.argumentsReach_of_sameContent
    (FeatureFile.parse_agrees reparsed parsed)

/--
The kind of argument that a diagnosis records of an unmatched step, and offers
for it, is that of the argument that an implementation of the step receives
when the file is run; only of an empty text the kind is recorded although the
implementation receives nothing.
-/
theorem diagnose_arguments [FeatureSyntax] {paths : List String}
    {diagnosis : Diagnosis}
    (diagnosed : project.diagnose templates library paths = .ok diagnosis) :
    ∃ files,
      List.Forall₂
          (fun path found =>
            project.Inspects templates library path found ∧
              ∀ uri first next file,
                project.readFeature path uri first = .ok (file, next) →
                  found.ArgumentsReach file)
          (paths.filter Path.isFeature) files ∧
        List.Forall₂ (fun step unmatched => unmatched.TellsArgument step)
          (files.flatMap (·.unmatchedSteps)) diagnosis.unmatched := by
  obtain ⟨files, inspect, rfl⟩ :=
    (diagnose_eq_ok_iff paths diagnosis).mp diagnosed
  refine ⟨files, inspect.imp ?_, Diagnosis.unmatched_ofFiles files⟩
  intro path found inspects
  refine ⟨inspects, ?_⟩
  intro uri first next file read
  exact inspects.argumentsReach read

end Project

namespace Sample

/-- A scenario puts the values of two rows into a quoted text, and the second
value is empty. -/
def quoting : Project where
  root := "/p"
  files :=
    { entries :=
        [ (["a.feature"],
            .textFile
              ("Feature:\n Scenario Outline:\n  Given a\n" ++
                "  \"\"\"<text>\"\"\"\n" ++
                "  Examples:\n   |text|\n   |b|\n   ||\n")) ] }

/-- What is recorded without any definitions. -/
def quotingRecords : Except ProjectError Diagnosis :=
  quoting.diagnose ["*.rs"] ({} : StepLibrary Unit) ["/p/a.feature"]

/-- The steps that are run. -/
def quotingSteps : Except ProjectError (List (PickleStep Nat)) :=
  (quoting.readFeature "/p/a.feature" "a.feature" 0).map fun read =>
    read.1.pickles.flatMap (·.steps)

/-- Both steps are recorded, each as its argument is received. -/
theorem quoting_arguments :
    ∃ diagnosis, quotingRecords = .ok diagnosis ∧
      diagnosis.unmatched.length = 2 ∧
      ∃ (found : DiagnosedFile Unit) (file : FeatureFile) (next : Nat),
        quoting.readFeature "/p/a.feature" "a.feature" 0 =
            .ok (file, next) ∧
          found.ArgumentsReach file ∧
          List.Forall₂ (fun step unmatched => unmatched.TellsArgument step)
            found.unmatchedSteps diagnosis.unmatched := by
  have recorded :
      (quotingRecords.toOption.map (·.unmatched.length)) = some 2 := by
    decide +kernel
  have reads :
      (quoting.readFeature "/p/a.feature" "a.feature" 0).isOk = true := by
    decide +kernel
  have feature : ["/p/a.feature"].filter Path.isFeature =
      ["/p/a.feature"] := by
    decide +kernel
  cases diagnosed : quotingRecords with
  | error reason => simp [diagnosed, Except.toOption] at recorded
  | ok diagnosis =>
      cases read : quoting.readFeature "/p/a.feature" "a.feature" 0 with
      | error reason =>
          rw [read] at reads
          cases reads
      | ok made =>
          obtain ⟨files, inspect, told⟩ := Project.diagnose_arguments diagnosed
          rw [feature] at inspect
          obtain ⟨found, rest, ⟨-, reach⟩, none, rfl⟩ :=
            List.forall₂_cons_left_iff.mp inspect
          cases none
          rw [diagnosed] at recorded
          rw [List.flatMap_singleton] at told
          exact ⟨diagnosis, rfl, Option.some.inj recorded, found, made.1,
            made.2, rfl, reach _ _ _ _ read, told⟩

/-- The text of the second row is recorded, and no argument is received. -/
theorem quoting_records_emptyText :
    quotingRecords.map (·.unmatched.map (·.argument)) =
        .ok [some .docString, some .docString] ∧
      quotingSteps.map (·.map (·.stepArgument)) =
        .ok [some (.docString "b"), none] := by
  decide +kernel

end Sample

end ScenarioRunner
