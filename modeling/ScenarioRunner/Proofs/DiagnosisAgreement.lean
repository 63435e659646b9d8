import ScenarioRunner.Project.Run
import ScenarioRunner.Proofs.ComposedMessages
import ScenarioRunner.Proofs.DiagnosisReport
import ScenarioRunner.Proofs.DiagnosisTally
import ScenarioRunner.Proofs.OmittedTests
import ScenarioRunner.Proofs.RebuiltRegistry
import ScenarioRunner.Proofs.Renumbering
import ScenarioRunner.Proofs.StepVisit

/-!
# A diagnosis agrees with running

A diagnosis reads a feature file and builds a registry for it without running
anything.  When the tests of the file are composed, the file is read again and
the registry is built again, with other numbers.  Still the record of a step
tells how it is going to run: the test case shows as many definitions as the
record names, the step resolves to them, and every attempt that reaches the
step fails or runs the body accordingly.

The main statement is `Project.diagnosis_agrees`.
-/

namespace ScenarioRunner

variable {Host : Type}

/-! ## Kinds of steps -/

/-- How many definitions match a step. -/
inductive MatchKind where
  | missing
  | single
  | several
  deriving DecidableEq, Repr

namespace MatchKind

def ofCount : Nat → MatchKind
  | 0 => .missing
  | 1 => .single
  | _ => .several

def ofResolved : Except ResolveError (StepDefinition Host) → MatchKind
  | .error (.missing _) => .missing
  | .error (.ambiguous ..) => .several
  | .ok _ => .single

/-- The kind of a step, as its turn in an attempt shows it. -/
def ofTurn : Option AttemptEnd → MatchKind
  | some (.failed (.missing _)) => .missing
  | some (.failed (.ambiguous _)) => .several
  | _ => .single

end MatchKind

def StepRecord.kind : StepRecord → MatchKind
  | .unmatched _ => .missing
  | .used .. => .single
  | .ambiguous _ => .several

/-- The identifiers of the definitions that match a text, in order. -/
def Registry.matchingIds (registry : Registry Host) (text : String) :
    List Nat :=
  (registry.matching text).map (·.id)

/-- A definition that is found runs its body, or a capture has no value. -/
theorem Visit.ofTurn_of_resolved {spec : Spec Host} {pickle : Pickle Nat}
    {step : PickleStep Nat} (visit : Visit spec pickle step)
    {definition : StepDefinition Host}
    (resolved : spec.registry.resolve step.text = .ok definition) :
    MatchKind.ofTurn visit.turn.1 = .single := by
  cases captured : definition.captures step.text with
  | error error =>
      rw [visit.turn_of_untransformed resolved captured]
      rfl
  | ok captures =>
      have ends := (visit.turn_of_captured resolved captured).2
      rw [ends]
      generalize (visit.performance definition captures).ending = ending
      rcases ending with outcome | _ | _ | _
      · cases outcome <;> rfl
      · rfl
      · rfl
      · rfl

/-! ## What a record foretells -/

namespace StepRecord

variable (spec : Spec Host) (pickle : Pickle Nat) (step : PickleStep Nat)

/--
What is recorded of a step tells which definitions its test step shows, what
the step resolves to, and what an attempt does that reaches it.
-/
inductive Foretells : StepRecord → Prop where
  | unmatched {value : UnmatchedStep}
      (ids : spec.registry.matchingIds step.text = [])
      (resolved : spec.registry.resolve step.text =
        .error (.missing step.text))
      (fails : ∀ visit : Visit spec pickle step,
        visit.outcome =
          (.failed (.missing
              (spec.hints.explain spec.interactive step.text)),
            visit.opened)) :
      Foretells (.unmatched value)
  | used {definition : StepDefinition Host} {usage : StepUsage}
      (ids : spec.registry.matchingIds step.text = [definition.id])
      (resolved : spec.registry.resolve step.text = .ok definition)
      (invokes : ∀ visit : Visit spec pickle step,
        visit.Invokes definition) :
      Foretells (.used definition.key usage)
  | ambiguous {definitions : List (StepDefinition Host)}
      {usage : StepUsage} {reason : ResolveError}
      (candidates : reason = .ambiguous step.text
        (definitions.map fun definition =>
          (definition.expression.canonical, definition.site)))
      (several : 2 ≤ definitions.length)
      (ordered : definitions.Sublist spec.registry.steps)
      (ids : spec.registry.matchingIds step.text =
        definitions.map (·.id))
      (resolved : spec.registry.resolve step.text = .error reason)
      (fails : ∀ visit : Visit spec pickle step,
        visit.outcome =
          (.failed (.ambiguous reason.message), visit.opened)) :
      Foretells
        (.ambiguous
          { step := usage, definitions := definitions.map (·.key) })

/-- A record agrees with the tests: it foretells them, and wherever the kind of
the step shows it is that of the record. -/
structure Agrees (record : StepRecord) : Prop where
  foretells : record.Foretells spec pickle step
  shown : record.kind =
    .ofCount (spec.registry.matchingIds step.text).length
  resolved : record.kind = .ofResolved (spec.registry.resolve step.text)
  attempted : ∀ visit : Visit spec pickle step,
    record.kind = .ofTurn visit.turn.1

variable {spec} {pickle} {step}

theorem agrees_of_missing
    (none : spec.registry.matching step.text = []) (value : UnmatchedStep) :
    (StepRecord.unmatched value).Agrees spec pickle step := by
  have resolved : spec.registry.resolve step.text =
      .error (.missing step.text) := by
    rw [Registry.resolve, none]
  have ids : spec.registry.matchingIds step.text = [] := by
    rw [Registry.matchingIds, none, List.map_nil]
  constructor
  case foretells =>
    apply Foretells.unmatched ids resolved
    intro visit
    exact visit.outcome_of_unresolved resolved
  case shown =>
    rw [ids]
    rfl
  case resolved =>
    rw [resolved]
    rfl
  case attempted =>
    intro visit
    rw [visit.turn_of_unresolved resolved]
    rfl

theorem agrees_of_single {definition : StepDefinition Host}
    (only : spec.registry.matching step.text = [definition])
    (usage : StepUsage) :
    (StepRecord.used definition.key usage).Agrees spec pickle step := by
  have resolved : spec.registry.resolve step.text = .ok definition :=
    (Registry.resolve_eq_ok_iff _ _ _).mpr only
  have ids : spec.registry.matchingIds step.text = [definition.id] := by
    rw [Registry.matchingIds, only, List.map_singleton]
  constructor
  case foretells =>
    apply Foretells.used ids resolved
    intro visit
    exact visit.invokes_of_resolved resolved
  case shown =>
    rw [ids]
    rfl
  case resolved =>
    rw [resolved]
    rfl
  case attempted =>
    intro visit
    exact (visit.ofTurn_of_resolved resolved).symm

theorem agrees_of_several
    (several : 2 ≤ (spec.registry.matching step.text).length)
    (usage : StepUsage) :
    (StepRecord.ambiguous
      { step := usage
        definitions :=
          (spec.registry.matching step.text).map (·.key) }).Agrees
      spec pickle step := by
  let reason : ResolveError :=
    .ambiguous step.text
      ((spec.registry.matching step.text).map fun definition =>
        (definition.expression.canonical, definition.site))
  have resolved : spec.registry.resolve step.text = .error reason := by
    unfold Registry.resolve reason
    rcases matched : spec.registry.matching step.text
      with _ | ⟨first, _ | ⟨second, others⟩⟩
    · simp [matched] at several
    · simp [matched] at several
    · rfl
  have count :
      MatchKind.ofCount (spec.registry.matchingIds step.text).length =
        .several := by
    rw [Registry.matchingIds, List.length_map]
    obtain ⟨more, length⟩ := Nat.exists_eq_add_of_le' several
    rw [length]
    rfl
  constructor
  case foretells =>
    apply Foretells.ambiguous rfl several List.filter_sublist rfl resolved
    intro visit
    exact visit.outcome_of_unresolved resolved
  case shown => exact count.symm
  case resolved =>
    rw [resolved]
    rfl
  case attempted =>
    intro visit
    rw [visit.turn_of_unresolved resolved]
    rfl

/-- A record that is made with a registry agrees with the tests that are run
with a registry of the same definitions. -/
theorem agrees_of_same {registry : Registry Host}
    (same : SameDefinitions registry.steps spec.registry.steps)
    (hints : SearchHints) {usage : StepUsage}
    (text : usage.text = step.text) (argument : Option ArgumentKind) :
    (make registry hints usage argument).Agrees spec pickle step := by
  have matched := Registry.matching_agrees same step.text
  have keys :
      (registry.matching step.text).map (·.key) =
        (spec.registry.matching step.text).map (·.key) :=
    matched.map StepDefinition.key fun definition => rfl
  have length := matched.length
  unfold make
  rw [text]
  rcases own : registry.matching step.text
    with _ | ⟨first, _ | ⟨second, others⟩⟩
  · rw [own] at length
    exact agrees_of_missing (List.length_eq_zero_iff.mp length.symm) _
  · rw [own] at length keys
    obtain ⟨definition, only⟩ := List.length_eq_one_iff.mp length.symm
    rw [only, List.map_singleton, List.map_singleton,
      List.singleton_inj] at keys
    dsimp only
    rw [keys]
    exact agrees_of_single only _
  · rw [own] at length keys
    dsimp only
    rw [keys]
    apply agrees_of_several
    rw [← length]
    simp

end StepRecord

/-! ## Tests of a file -/

/-- The steps of a pickle that a test case shows, each with the definitions
that it refers to. -/
def TestCase.stepDefinitions (testCase : TestCase Nat) :
    List (Nat × List Nat) :=
  testCase.steps.filterMap fun step =>
    step.pickleStepId.map fun id => (id, step.definitionIds.getD [])

/-- The step that a slot is there for. -/
def Slot.step? : Slot Host → Option (PickleStep Nat)
  | .hook .. => none
  | .step _ value => some value

theorem Pickle.filterMap_work (pickle : Pickle Nat)
    (registry : Registry Host) {Shown : Type}
    (shown : PickleStep Nat → Shown) :
    (pickle.work registry).filterMap
        (Sum.elim (fun _ => none) (some ∘ shown)) =
      pickle.steps.map shown := by
  have hooks (found : List (Hook Host)) :
      (found.map Sum.inl).filterMap
          (Sum.elim (fun _ => none) (some ∘ shown)) = [] := by
    rw [List.filterMap_map, List.filterMap_eq_nil_iff]
    intro hook _
    rfl
  rw [work, List.filterMap_append, List.filterMap_append, hooks, hooks,
    List.nil_append, List.append_nil, List.filterMap_map]
  exact congrFun List.filterMap_eq_map pickle.steps

theorem Shows.stepDefinitions {registry : Registry Host}
    {testCase : TestCase Nat} {pickle : Pickle Nat}
    (shows : Shows registry testCase pickle) :
    testCase.stepDefinitions =
      pickle.steps.map fun step =>
        (step.id, registry.matchingIds step.text) := by
  obtain ⟨slots, steps, work⟩ := shows.steps
  rw [← Pickle.filterMap_work pickle registry, ← work, List.filterMap_map,
    TestCase.stepDefinitions, steps, List.filterMap_map]
  apply List.filterMap_congr
  intro slot _
  cases slot <;> rfl

theorem Describes.filterMap_step? {registry : Registry Host}
    {testCase : TestCase Nat} {executable : Executable Host}
    (describes : Describes registry testCase executable) :
    executable.slots.filterMap Slot.step? = executable.pickle.steps := by
  have shown :=
    executable.pickle.filterMap_work registry fun step => step
  rw [List.map_id', ← describes.work, List.filterMap_map] at shown
  rw [← shown]
  apply List.filterMap_congr
  intro slot _
  cases slot <;> rfl

theorem Compose.Setting.test_executes (setting : Compose.Setting Host) :
    setting.Makes fun part =>
      ∀ test ∈ part.2.toList, ∀ executable,
        test.executable = some executable →
          executable.pickle ∈ setting.pickles := by
  intro name pickle member
  refine .bind (.trivial _) fun slots _ => ?_
  refine .bind (.trivial _) fun id _ => ?_
  split
  · refine .pure ?_
    intro test listed executable executes
    cases Option.mem_toList.mp listed
    cases executes
    exact member
  · split
    · exact .pure nofun
    · refine .pure ?_
      intro test listed executable executes
      cases Option.mem_toList.mp listed
      cases executes

/-- The tests of a file run the steps of its pickles. -/
theorem Spec.executable_of_pickle {registry : Registry Host}
    {source : String} {document : Document Nat}
    {pickles : List (Pickle Nat)} {options : ComposeOptions}
    {first next : Nat} {spec : Spec Host}
    {collected : List (Envelope Nat)}
    (composed :
      (Spec.compose registry source document pickles options).run first =
        ((spec, collected), next))
    {test : Test Host} (listed : test ∈ spec.tests)
    {executable : Executable Host}
    (executes : test.executable = some executable) :
    executable.pickle ∈ pickles ∧
      executable.slots.filterMap Slot.step? = executable.pickle.steps := by
  have consists :=
    compose_consists
      (fun part => ∀ test ∈ part.2.toList, ∀ executable,
        test.executable = some executable → executable.pickle ∈ pickles)
      registry source document pickles options
      (by rintro setting rfl rfl; exact setting.test_executes) first
  rw [composed] at consists
  obtain ⟨-, testCases, -, parts, own, -, tests⟩ := consists
  constructor
  · rw [tests] at listed
    obtain ⟨part, among, same⟩ := List.mem_filterMap.mp listed
    exact own part among test (Option.mem_toList.mpr same) executable
      executes
  · obtain ⟨testCase, -, describes, -⟩ :=
      exists_testCase composed listed executes
    exact describes.filterMap_step?

/-- The test cases of a file show the definitions that match the steps of its
pickles. -/
theorem Spec.stepDefinitions_of_compose {registry : Registry Host}
    {source : String} {document : Document Nat}
    {pickles : List (Pickle Nat)} {options : ComposeOptions}
    {first next : Nat} {spec : Spec Host}
    {collected : List (Envelope Nat)}
    (composed :
      (Spec.compose registry source document pickles options).run first =
        ((spec, collected), next))
    {testCase : TestCase Nat}
    (member : testCase ∈ collected.filterMap Envelope.testCase?) :
    ∃ pickle ∈ pickles, testCase.pickleId = pickle.id ∧
      testCase.stepDefinitions =
        pickle.steps.map fun step =>
          (step.id, registry.matchingIds step.text) := by
  have consists :=
    compose_consists
      (fun part => ∃ pickle ∈ pickles, Shows registry part.1 pickle)
      registry source document pickles options
      (by rintro setting rfl rfl; exact setting.test_shows) first
  rw [composed] at consists
  obtain ⟨-, testCases, whole, shown⟩ := consists
  dsimp only at whole
  rw [whole, Compose.testCases_collected] at member
  obtain ⟨_, pickle, among, shows⟩ := shown.exists_part member
  exact ⟨pickle, among, shows.made, shows.stepDefinitions⟩

/-! ## Files that are diagnosed and run -/

/--
What is recorded of a file agrees with its tests, which are made from a reading
of their own.  Each pickle of the second reading corresponds to one of the
first.  Test cases show the definitions of all steps of a pickle, and tests run
all of them.
-/
structure DiagnosedFile.AgreesWith (found : DiagnosedFile Host)
    (file : FeatureFile) (options : ComposeOptions) (spec : Spec Host)
    (collected : List (Envelope Nat)) : Prop where
  steps :
    List.Forall₂
      (fun diagnosed pickle =>
        List.Forall₂
          (fun own step => (found.record own).Agrees spec pickle step)
          diagnosed.steps pickle.steps)
      found.file.pickles file.pickles
  shown :
    ∀ testCase ∈ collected.filterMap Envelope.testCase?,
      ∃ pickle ∈ file.pickles, testCase.pickleId = pickle.id ∧
        testCase.stepDefinitions =
          pickle.steps.map fun step =>
            (step.id, spec.registry.matchingIds step.text)
  listed :
    ∀ pickle ∈ file.pickles,
      ¬ file.document.LeavesOut options file.pickles pickle →
        ∃ testCase ∈ collected.filterMap Envelope.testCase?,
          testCase.pickleId = pickle.id
  executed :
    ∀ test ∈ spec.tests, ∀ executable, test.executable = some executable →
      executable.pickle ∈ file.pickles ∧
        executable.slots.filterMap Slot.step? = executable.pickle.steps

theorem forall₂_of_map_eq {First Second Shown : Type}
    {shown : First → Shown} {told : Second → Shown}
    {firsts : List First} {seconds : List Second}
    (same : firsts.map shown = seconds.map told) :
    List.Forall₂ (fun first second => shown first = told second)
      firsts seconds := by
  rw [← List.forall₂_map_left_iff (R := fun value second =>
      value = told second), ← List.forall₂_map_right_iff, same]
  exact List.forall₂_same.mpr fun value _ => rfl

/-- Records agree with the tests of pickles of the same content. -/
theorem DiagnosedFile.steps_agree {found : DiagnosedFile Host}
    {spec : Spec Host} {pickles : List (Pickle Nat)}
    (same : SameDefinitions found.registry.steps spec.registry.steps)
    (content : SameContent found.file.pickles pickles) :
    List.Forall₂
      (fun diagnosed pickle =>
        List.Forall₂
          (fun own step => (found.record own).Agrees spec pickle step)
          diagnosed.steps pickle.steps)
      found.file.pickles pickles := by
  refine (forall₂_of_map_eq content).imp ?_
  intro diagnosed pickle equal
  have steps :
      diagnosed.steps.map PickleStep.content =
        pickle.steps.map PickleStep.content :=
    congrArg PickleContent.steps equal
  refine (forall₂_of_map_eq steps).imp ?_
  intro own step equal
  exact StepRecord.agrees_of_same same found.hints
    (congrArg StepContent.text equal) _

namespace Project

/--
The tests of a feature file are composed: the file is read, definitions are
searched for it, and a registry is built of them.
-/
structure Composes [FeatureSyntax] (project : Project) (templates : List String)
    (library : StepLibrary Host) (path : String) (file : FeatureFile)
    (options : ComposeOptions) (spec : Spec Host)
    (collected : List (Envelope Nat)) : Prop where
  built : ∃ hints first next,
    project.search templates path = .ok hints ∧
      library.build hints.paths first = .ok (spec.registry, next)
  read : ∃ uri first next,
    project.readFeature path uri first = .ok (file, next)
  composed : ∃ source first next,
    (Spec.compose spec.registry source file.document file.pickles
      options).run first = ((spec, collected), next)

variable {project : Project} {templates : List String}
  {library : StepLibrary Host} {path : String}

theorem exists_of_readFeature [FeatureSyntax] {uri : String} {first next : Nat}
    {file : FeatureFile}
    (read : project.readFeature path uri first = .ok (file, next)) :
    ∃ source, project.read path = .ok source ∧
      FeatureFile.parse uri source first = .ok (file, next) := by
  unfold readFeature at read
  cases text : project.read path with
  | error reason =>
      simp [text, Except.mapError, bind, Except.bind] at read
  | ok source =>
      cases parsed : FeatureFile.parse uri source first with
      | error reason =>
          simp [text, parsed, Except.mapError, bind, Except.bind] at read
      | ok made =>
          simp only [text, parsed, Except.mapError, bind, Except.bind,
            Except.ok.injEq] at read
          subst read
          exact ⟨source, rfl, parsed⟩

/-- The tests of a run are composed. -/
theorem composes_of_run [FeatureSyntax] {run : ProjectRun Host}
    {options : RunOptions} {spec : Spec Host} {session : Session Host}
    (composed : run.compose options library path = .ok (spec, session)) :
    ∃ file hints,
      run.project.Composes options.stepDefinitions library path file
        (options.composeOptions hints) spec session.stage.messages := by
  unfold ProjectRun.compose at composed
  cases read : run.project.readFeature path (run.project.relative path)
      run.next with
  | error reason => simp [read, bind, Except.bind] at composed
  | ok parsed =>
      cases searched : run.project.search options.stepDefinitions path with
      | error reason => simp [read, searched, bind, Except.bind] at composed
      | ok hints =>
          cases built : library.build hints.paths parsed.2 with
          | error reason =>
              simp [read, searched, built, bind, Except.bind] at composed
          | ok registered =>
              simp only [read, searched, built, bind, Except.bind, pure,
                Except.pure] at composed
              cases composed
              refine ⟨parsed.1, hints, ?_, ⟨_, _, _, read⟩, ?_⟩
              · exact ⟨hints, parsed.2, registered.2, searched, built⟩
              · exact ⟨parsed.1.source, registered.2, _, rfl⟩

/-- What is recorded of a file agrees with its tests. -/
theorem Inspects.agreesWith [FeatureSyntax] {found : DiagnosedFile Host}
    (inspects : project.Inspects templates library path found)
    {file : FeatureFile} {options : ComposeOptions} {spec : Spec Host}
    {collected : List (Envelope Nat)}
    (composes :
      project.Composes templates library path file options spec collected) :
    found.AgreesWith file options spec collected := by
  obtain ⟨hints, first, next, searched, built⟩ := composes.built
  obtain ⟨uri, start, last, read⟩ := composes.read
  obtain ⟨source, number, final, composed⟩ := composes.composed
  obtain ⟨text, own, parsed⟩ := exists_of_readFeature read
  have registries :
      SameDefinitions found.registry.steps spec.registry.steps := by
    obtain ⟨_, diagnosed⟩ := inspects.built
    have same := inspects.searched.symm.trans searched
    cases same
    exact (StepLibrary.build_agrees diagnosed built).2
  have content : SameContent found.file.pickles file.pickles := by
    obtain ⟨_, diagnosed⟩ := inspects.read
    obtain ⟨otherText, other, reparsed⟩ := exists_of_readFeature diagnosed
    cases own.symm.trans other
    exact FeatureFile.parse_agrees reparsed parsed
  constructor
  case steps => exact DiagnosedFile.steps_agree registries content
  case shown =>
    intro testCase member
    exact Spec.stepDefinitions_of_compose composed member
  case listed =>
    intro pickle member stays
    have owns := FeatureFile.owns_of_parse parsed
    have entries :=
      (Spec.compose_entries spec.registry source file.document file.pickles
        options number).1
    rw [composed] at entries
    have shown :=
      (owns.id_mem_childPickles_iff spec.registry options member).mpr stays
    rw [← entries] at shown
    obtain ⟨testCase, among, same⟩ := List.mem_map.mp shown
    exact ⟨testCase, among, same⟩
  case executed =>
    intro test listed executable executes
    exact Spec.executable_of_pickle composed listed executes

end Project

/-- There are problems exactly if a step is not recorded with a single
definition. -/
theorem Diagnosis.Holds.hasProblems_iff {diagnosis : Diagnosis}
    {files : List (DiagnosedFile Host)} (holds : diagnosis.Holds files) :
    diagnosis.hasProblems = true ↔
      ∃ found ∈ files, ∃ step ∈ found.steps,
        (found.record step).kind ≠ .single := by
  have recorded (property : StepRecord → Prop) :
      (∃ record ∈ files.flatMap (·.records), property record) ↔
        ∃ found ∈ files, ∃ step ∈ found.steps,
          property (found.record step) := by
    simp [DiagnosedFile.records, and_assoc]
  rw [← recorded (·.kind ≠ .single), hasProblems, holds.unmatched,
    holds.ambiguous]
  generalize files.flatMap (·.records) = records
  induction records with
  | nil => simp
  | cons record others ih =>
      rw [List.exists_mem_cons_iff]
      cases record with
      | unmatched value =>
          simp [StepRecord.unmatched?, StepRecord.kind]
      | ambiguous value =>
          simp [StepRecord.ambiguous?, StepRecord.kind]
      | used key step =>
          simpa [StepRecord.unmatched?, StepRecord.ambiguous?,
            StepRecord.kind] using ih

namespace Project

/--
What a diagnosis records of a step is what the tests of its file show, resolve
and run.  There are problems exactly if some step is missing or ambiguous, and
only then the report does not end by saying that there are none.
-/
theorem diagnosis_agrees [LocatedSyntax] {project : Project}
    {templates : List String} {library : StepLibrary Host} {paths : List String}
    {diagnosis : Diagnosis}
    (diagnosed : project.diagnose templates library paths = .ok diagnosis) :
    ∃ files,
      List.Forall₂
          (fun path found =>
            project.Inspects templates library path found ∧
              ∀ file options spec collected,
                project.Composes templates library path file options spec
                    collected →
                  found.AgreesWith file options spec collected)
          (paths.filter Path.isFeature) files ∧
        diagnosis.Holds files ∧
        (diagnosis.hasProblems = true ↔
          ∃ found ∈ files, ∃ step ∈ found.steps,
            (found.record step).kind ≠ .single) ∧
        ∀ colored,
          Text.EndsWith (diagnosis.report colored) Diagnosis.noProblems ↔
            diagnosis.hasProblems = false := by
  obtain ⟨files, inspect, rfl⟩ :=
    (diagnose_eq_ok_iff paths diagnosis).mp diagnosed
  have holds : (Diagnosis.ofFiles files).Holds files := by
    apply Diagnosis.ofFiles_holds
    intro found member
    obtain ⟨path, -, inspects⟩ := exists_path_of_mem inspect member
    exact inspects.lines
  refine ⟨files, ?_, holds, holds.hasProblems_iff, ?_⟩
  · refine inspect.imp ?_
    intro path found inspects
    refine ⟨inspects, ?_⟩
    intro file options spec collected composes
    exact inspects.agreesWith composes
  · intro colored
    exact Diagnosis.report_endsWith_iff colored _

end Project

namespace Sample

/-- The tests of the first file, with what is known before they run. -/
def comparedTests : Except ProjectError (Spec Unit × Session Unit) :=
  ProjectRun.compose { project := compared, host := () }
    { stepDefinitions := ["*.rs"] } comparedLibrary "/p/a.feature"

/-- The first file has a step with one definition and a step with two, as the
test case of its scenario shows. -/
theorem compared_agrees :
    (comparedTests.toOption.map fun tests =>
        (tests.2.stage.messages.filterMap Envelope.testCase?).map
          fun testCase =>
            testCase.stepDefinitions.map fun shown => shown.2.length) =
        some [[1, 2]] ∧
      (comparedFiles ["/p/a.feature"]).hasProblems = true ∧
      ∃ found, compared.Inspects ["*.rs"] comparedLibrary "/p/a.feature"
          found ∧
        ∃ file options spec collected,
          compared.Composes ["*.rs"] comparedLibrary "/p/a.feature" file
              options spec collected ∧
            found.AgreesWith file options spec collected := by
  refine ⟨by decide +kernel, by decide +kernel, ?_⟩
  have diagnosed := compared_succeeds ["/p/a.feature"] (by decide +kernel)
  obtain ⟨files, inspect, -⟩ := Project.diagnosis_agrees diagnosed
  have feature : ["/p/a.feature"].filter Path.isFeature =
      ["/p/a.feature"] := by
    decide +kernel
  rw [feature] at inspect
  obtain ⟨found, rest, ⟨inspects, agrees⟩, -, -⟩ :=
    List.forall₂_cons_left_iff.mp inspect
  have runs : comparedTests.isOk = true := by
    decide +kernel
  cases tests : comparedTests with
  | error reason =>
      rw [tests] at runs
      cases runs
  | ok composed =>
      obtain ⟨file, hints, composes⟩ := Project.composes_of_run tests
      exact ⟨found, inspects, file, _, composed.1, _, composes,
        agrees file _ composed.1 _ composes⟩

end Sample

end ScenarioRunner
