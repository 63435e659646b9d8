import ScenarioRunner.Proofs.FileFilter
import ScenarioRunner.Proofs.FileUpdates
import ScenarioRunner.Proofs.JsonText
import ScenarioRunner.Proofs.MessageStream

/-!
# The output file of a run

The feature files of a project are executed one after the other.  Each of them
adds its messages to the output file, unless a hook has failed.  As the file is
taken away first, it has the messages of this run and no others, one on each
line; and it is not there if there is nothing to be written.

The main statement is `ProjectRun.execute_writes`.
-/

namespace ScenarioRunner

open Message (Json)

variable {Host : Type}

/-! ## Executing feature files -/

/-- A feature file whose tests have been run: the project before, the tests,
and the session behind them. -/
structure SpecRun (Host : Type) where
  before : ProjectRun Host
  path : String
  spec : Spec Host
  session : Session Host

namespace SpecRun

/-- The messages about the file as they are written. -/
def messages (run : SpecRun Host) : List Json :=
  run.session.allMessages.map fun message =>
    message.json.nameIdentifiers uniqueName

/-- What is written about the file: nothing if a hook has failed. -/
def written (run : SpecRun Host) : List Json :=
  if run.session.stage.hookFailure then [] else run.messages

theorem named_of_mem_written {run : SpecRun Host} {value : Json}
    (member : value ∈ run.written) : value.Named := by
  unfold written at member
  split at member
  · cases member
  · obtain ⟨message, -, rfl⟩ := List.mem_map.mp member
    exact Json.named_nameIdentifiers uniqueName _

/-- There are messages about every file, as the end of the run is one. -/
theorem flatMap_written_ne_nil {executed : List (SpecRun Host)}
    (succeeded :
      ∃ each ∈ executed, each.session.stage.hookFailure = false) :
    executed.flatMap written ≠ [] := by
  obtain ⟨each, member, succeeded⟩ := succeeded
  intro none
  have own := List.flatMap_eq_nil_iff.mp none each member
  simp [written, messages, Session.allMessages, succeeded] at own

/-- A hook has failed in each of some files, or there is one in which none
has. -/
theorem failed_or_succeeded (executed : List (SpecRun Host)) :
    (∀ each ∈ executed, each.session.stage.hookFailure = true) ∨
      ∃ each ∈ executed, each.session.stage.hookFailure = false := by
  rw [or_iff_not_imp_left]
  intro some
  simpa using some

/-- The messages show the file and its tests, and then what was run. -/
def Streams [FeatureSyntax] (run : SpecRun Host) : Prop :=
  ∃ file next testCases told,
    run.before.project.readFeature run.path
        (run.before.project.relative run.path) run.before.next =
      .ok (file, next) ∧
    Framed file run.spec.registry testCases told run.session.allMessages

end SpecRun

/-- Feature files are executed one after the other. -/
inductive Executes [FeatureSyntax] (options : RunOptions)
    (library : StepLibrary Host) (newWorld : WorldMaker Host) :
    ProjectRun Host → List (SpecRun Host) → ProjectRun Host → Prop where
  | nil (run : ProjectRun Host) : Executes options library newWorld run [] run
  | cons {run next after : ProjectRun Host} {path : String}
      {spec : Spec Host} {start session : Session Host} {found : Summary}
      {others : List (SpecRun Host)}
      (composed : run.compose options library path = .ok (spec, start))
      (ran : start.run spec newWorld (options.retries.getD 0) =
        (some found, session))
      (written :
        { run with
          host := session.stage.host
          next := session.stage.next }.write options spec session =
            .ok next)
      (rest : Executes options library newWorld next others after) :
      Executes options library newWorld run
        (⟨run, path, spec, session⟩ :: others) after

namespace ProjectRun

variable {options : RunOptions} {library : StepLibrary Host}
variable {newWorld : WorldMaker Host}

/-- A run that comes to an end executes all of its feature files. -/
theorem exists_executes [FeatureSyntax] {paths : List String}
    {summary total : Summary} {run after : ProjectRun Host}
    (ran :
      specs options library newWorld summary paths run =
        (.ok (some total), after)) :
    ∃ executed, Executes options library newWorld run executed after ∧
      executed.map SpecRun.path = paths := by
  induction paths generalizing summary run with
  | nil =>
      cases ran
      exact ⟨[], .nil _, rfl⟩
  | cons path paths ih =>
      rw [specs] at ran
      cases composed : run.compose options library path with
      | error reason => simp [composed] at ran
      | ok composition =>
          obtain ⟨spec, start⟩ := composition
          rcases done :
              start.run spec newWorld (options.retries.getD 0) with
            ⟨found, session⟩
          simp only [composed, done] at ran
          cases found with
          | none => simp at ran
          | some found =>
              simp only at ran
              split at ran
              · simp at ran
              · rename_i next written
                obtain ⟨executed, executes, rfl⟩ := ih ran
                exact ⟨_, .cons composed done written executes, rfl⟩

/-- The tests of a feature file are composed of what is read, and nothing has
been run then. -/
theorem exists_of_compose [FeatureSyntax] {run : ProjectRun Host}
    {path : String} {spec : Spec Host} {session : Session Host}
    (composed : run.compose options library path = .ok (spec, session)) :
    ∃ file hints first next number collected,
      run.project.readFeature path (run.project.relative path) run.next =
          .ok (file, first) ∧
        (Spec.compose spec.registry file.source file.document file.pickles
            (options.composeOptions hints)).run next =
          ((spec, collected), number) ∧
        session = .start spec collected run.host number := by
  unfold ProjectRun.compose at composed
  cases read : run.project.readFeature path (run.project.relative path)
      run.next with
  | error reason => simp [read, bind, Except.bind] at composed
  | ok parsed =>
      cases searched : run.project.search options.stepDefinitions path with
      | error reason => simp [read, searched, bind, Except.bind] at composed
      | ok hints =>
          cases built : library.build hints.paths parsed.2 with
          | error reason =>
              simp [read, searched, built, bind, Except.bind] at composed
          | ok registered =>
              simp only [read, searched, built, bind, Except.bind, pure,
                Except.pure] at composed
              cases composed
              exact ⟨parsed.1, hints, _, _, _, _, rfl, rfl, rfl⟩

/-- Messages are written if the options say so. -/
theorem messagesEnabled_of_compose [FeatureSyntax] {run : ProjectRun Host}
    {path : String} {spec : Spec Host} {session : Session Host}
    (composed : run.compose options library path = .ok (spec, session)) :
    spec.messagesEnabled = options.messages := by
  obtain ⟨file, hints, first, next, number, collected, -, made, -⟩ :=
    exists_of_compose composed
  exact congrArg (·.1.1.messagesEnabled) made.symm

end ProjectRun

/-- The messages about an executed file show it and its tests. -/
theorem Executes.streams [FeatureSyntax] {options : RunOptions}
    {library : StepLibrary Host} {newWorld : WorldMaker Host}
    {run after : ProjectRun Host} {executed : List (SpecRun Host)}
    (executes : Executes options library newWorld run executed after) :
    ∀ each ∈ executed, each.Streams := by
  induction executes with
  | nil => exact List.forall_mem_nil _
  | cons composed ran written rest ih =>
      refine List.forall_mem_cons.mpr ⟨?_, ih⟩
      obtain ⟨file, hints, first, next, number, collected, read, made, rfl⟩ :=
        ProjectRun.exists_of_compose composed
      obtain ⟨testCases, told, framed⟩ := Session.framed_of_run made ran
      exact ⟨file, _, testCases, told, read, framed⟩

/-! ## The output file -/

/-- The path of the output file. -/
def RunOptions.output (options : RunOptions) : String :=
  Path.join options.projectRoot options.messagesOutput

namespace Project

/-- There is a file at the place that a path leads to. -/
def HasFile (project : Project) (path : String) : Prop :=
  ∃ inside, project.inside? path = some inside ∧
    project.files.HasFile inside

/-- It is settled where a path leads within the project. -/
def Settles (project : Project) (path : String) : Prop :=
  ∀ inside, project.inside? path = some inside →
    project.files.Settles inside

/-- What is in the output file: what was left in it, and then some values, each
on a line.  Without values it is still as it was. -/
inductive Output (project : Project) (path : String)
    (left : Option String) : List Json → Prop where
  | outside (outside : project.inside? path = none) :
      Output project path left []
  | kept {inside : String} (within : project.inside? path = some inside)
      (leaves : project.files.Leaves inside left) :
      Output project path left []
  | written {inside : String} {values : List Json}
      (within : project.inside? path = some inside) (some : values ≠ [])
      (holds : project.files.Holds inside
        (left.getD "" ++ String.join (values.map Json.line))) :
      Output project path left values

/-- A file that is removed is not there; it cannot come back where it is
settled where the path leads. -/
theorem output_of_discard {project prepared : Project} {path : String}
    (discarded : project.discard path = .ok prepared) :
    ¬ prepared.HasFile path ∧
      (project.Settles path → prepared.Output path none []) := by
  unfold discard at discarded
  cases within : project.inside? path with
  | none =>
      rw [within] at discarded
      cases discarded
      refine ⟨?_, fun _ => .outside within⟩
      rintro ⟨inside, other, -⟩
      rw [within] at other
      cases other
  | some inside =>
      simp only [within] at discarded
      cases removed : project.files.discard inside with
      | error reason => simp [removed, Except.map] at discarded
      | ok files =>
          simp only [removed, Except.map, Except.ok.injEq] at discarded
          subst discarded
          constructor
          · rintro ⟨other, same, hasFile⟩
            obtain rfl : inside = other :=
              Option.some.inj (within.symm.trans same)
            exact Files.not_hasFile_of_discard removed hasFile
          · intro settles
            exact .kept within
              (Files.leaves_of_discard (settles inside within) removed)

theorem exists_of_appendReport {project next : Project} {path : String}
    {report : Report}
    (appended : project.appendReport path report = .ok next) :
    ∃ inside files,
      project.inside? path = some inside ∧
        project.files.appendReport inside report = .ok files ∧
        next = { project with files } := by
  unfold appendReport at appended
  cases within : project.inside? path with
  | none => simp [within] at appended
  | some inside =>
      simp only [within] at appended
      cases added : project.files.appendReport inside report with
      | error reason => simp [added, Except.map] at appended
      | ok files =>
          simp only [added, Except.map, Except.ok.injEq] at appended
          exact ⟨inside, files, rfl, added, appended.symm⟩

/-- The messages of a report come behind what is in the output file. -/
theorem Output.appendReport {project next : Project} {path : String}
    {left : Option String} {values : List Json} {report : Report}
    (output : project.Output path left values)
    (appended : project.appendReport path report = .ok next)
    (some : report.messages ≠ []) :
    next.Output path left
      (values ++ if report.hookFailure then [] else report.messages) := by
  obtain ⟨inside, files, within, added, rfl⟩ :=
    exists_of_appendReport appended
  unfold Files.appendReport at added
  split at added
  · rename_i failed
    cases added
    rwa [if_pos failed, List.append_nil]
  · rename_i succeeded
    rw [if_neg succeeded]
    cases output with
    | outside outside =>
        rw [within] at outside
        cases outside
    | kept known leaves =>
        obtain rfl := Option.some.inj (within.symm.trans known)
        exact .written within some (leaves.appendBelow added)
    | written known others holds =>
        obtain rfl := Option.some.inj (within.symm.trans known)
        have leaves : project.files.Leaves inside (.some _) := holds.there
        refine .written within (List.append_ne_nil_of_left_ne_nil others _) ?_
        rw [List.map_append, String.join_append, ← String.append_assoc]
        exact leaves.appendBelow added

theorem Output.read {project : Project} {path : String}
    {left : Option String} {values : List Json}
    (output : project.Output path left values) (some : values ≠ []) :
    project.read path =
      .ok (left.getD "" ++ String.join (values.map Json.line)) := by
  cases output with
  | outside => exact absurd rfl some
  | kept => exact absurd rfl some
  | written within _ holds =>
      rw [Project.read, within]
      exact holds.read

end Project

/-- The messages about a feature file are added to the output file. -/
theorem ProjectRun.appendReport_of_write {options : RunOptions}
    {run next : ProjectRun Host} {spec : Spec Host} {session : Session Host}
    (messages : options.messages = true)
    (enabled : spec.messagesEnabled = true)
    (written : run.write options spec session = .ok next) :
    run.project.appendReport options.output
        { uri := spec.uri
          messages := session.allMessages.map fun message =>
            message.json.nameIdentifiers uniqueName
          hookFailure := session.stage.hookFailure } =
      .ok next.project := by
  have path : options.messagesPath? = some options.output := by
    rw [RunOptions.messagesPath?, if_pos messages]
    rfl
  simp only [write, path, Session.report?, enabled, if_true,
    Report.nameIdentifiers, List.map_map] at written
  cases appended : run.project.appendReport options.output
      { uri := spec.uri
        messages := session.allMessages.map fun message =>
          message.json.nameIdentifiers uniqueName
        hookFailure := session.stage.hookFailure } with
  | error reason =>
      simp [Function.comp_def, appended, Except.map,
        Except.mapError] at written
  | ok project =>
      simp only [Function.comp_def, appended, Except.map, Except.mapError,
        Except.ok.injEq] at written
      rw [← written]

namespace Executes

variable {options : RunOptions} {library : StepLibrary Host}
variable {newWorld : WorldMaker Host} {run after : ProjectRun Host}
variable {executed : List (SpecRun Host)}

/-- What is written about the files comes behind what is in the output
file. -/
theorem output [FeatureSyntax]
    (executes : Executes options library newWorld run executed after)
    (messages : options.messages = true) {left : Option String}
    {values : List Json}
    (known : run.project.Output options.output left values) :
    after.project.Output options.output left
      (values ++ executed.flatMap SpecRun.written) := by
  induction executes generalizing values with
  | nil =>
      rw [List.flatMap_nil, List.append_nil]
      exact known
  | cons composed ran written rest ih =>
      have enabled := ProjectRun.messagesEnabled_of_compose composed
      rw [messages] at enabled
      have appended :=
        ProjectRun.appendReport_of_write messages enabled written
      rw [List.flatMap_cons, ← List.append_assoc]
      exact ih (known.appendReport appended (by simp [Session.allMessages]))

/-- Without anything to be written the project stays as it is. -/
theorem project_eq [FeatureSyntax]
    (executes : Executes options library newWorld run executed after)
    (messages : options.messages = true)
    (none : ∀ each ∈ executed, each.session.stage.hookFailure = true) :
    after.project = run.project := by
  induction executes with
  | nil => rfl
  | cons composed ran written rest ih =>
      rw [List.forall_mem_cons] at none
      have enabled := ProjectRun.messagesEnabled_of_compose composed
      rw [messages] at enabled
      have appended :=
        ProjectRun.appendReport_of_write messages enabled written
      obtain ⟨inside, files, -, added, same⟩ :=
        Project.exists_of_appendReport appended
      rw [Files.appendReport, if_pos none.1] at added
      cases added
      rw [ih none.2, same]

end Executes

/-! ## Whole runs -/

namespace Project

/-- The path of a place. -/
def pathOf (project : Project) (place : Place) : String :=
  Path.join project.root ("/".intercalate place)

/-- Paths are those of places in order: none comes before an earlier one. -/
def Sorted (project : Project) (paths : List String) : Prop :=
  ∃ places : List Place,
    (places.Pairwise fun first second => ¬ second < first) ∧
      paths = places.map project.pathOf

theorem Sorted.filter {project : Project} {paths : List String}
    (sorted : project.Sorted paths) (passes : String → Bool) :
    project.Sorted (paths.filter passes) := by
  obtain ⟨places, ordered, rfl⟩ := sorted
  refine ⟨places.filter (passes ∘ project.pathOf), ?_, List.filter_map⟩
  exact ordered.sublist List.filter_sublist

theorem sorted_of_discover {project : Project} {patterns paths : List String}
    (found : project.discover patterns = .ok paths) :
    project.Sorted paths := by
  unfold discover at found
  cases selected : project.select patterns with
  | error reason => simp [selected, Except.map] at found
  | ok places =>
      simp only [selected, Except.map, Except.ok.injEq] at found
      have decides (first second : Place) :
          (!decide (second < first)) = true ↔ ¬ second < first := by
        rw [Bool.not_eq_true', decide_eq_false_iff_not]
      refine ⟨_, ?_, found.symm⟩
      refine (List.pairwise_mergeSort ?_ ?_ places).imp
        fun {first second} => (decides first second).mp
      · intro first second third
        rw [decides, decides, decides, List.not_lt, List.not_lt, List.not_lt]
        exact List.le_trans
      · intro first second
        rw [Bool.or_eq_true, decides, decides, List.not_lt, List.not_lt]
        exact List.le_total first second

end Project

namespace ProjectRun

variable {options : RunOptions} {library : StepLibrary Host}
variable {newWorld : WorldMaker Host} {run after : ProjectRun Host}

theorem sorted_of_paths [FeatureSyntax] {paths : List String}
    (found : run.paths options = .ok paths) : run.project.Sorted paths := by
  unfold ProjectRun.paths at found
  cases discovered : run.project.discover options.specPattern with
  | error reason => simp [discovered, bind, Except.bind] at found
  | ok all =>
      have sorted := Project.sorted_of_discover discovered
      simp only [discovered, bind, Except.bind] at found
      split at found
      · obtain ⟨-, rfl⟩ := filter_of_filterM found
        exact sorted.filter _
      · cases found
        exact sorted

/-- A run finds the feature files and takes the output file away first. -/
theorem exists_of_execute [FeatureSyntax] {summary : Summary}
    (messages : options.messages = true)
    (succeeds :
      run.execute options library newWorld = (.ok (some summary), after)) :
    ∃ paths prepared,
      run.paths options = .ok paths ∧
        run.project.discard options.output = .ok prepared ∧
        specs options (library.locatedFrom options.projectRoot) newWorld {}
            (paths.filter Path.isFeature) { run with project := prepared } =
          (.ok (some summary), after) := by
  have path : options.messagesPath? = some options.output := by
    rw [RunOptions.messagesPath?, if_pos messages]
    rfl
  unfold execute at succeeds
  cases found : run.paths options with
  | error reason => simp [found, bind, Except.bind] at succeeds
  | ok paths =>
      cases discarded : run.project.discard options.output with
      | error reason =>
          simp [found, path, discarded, Except.mapError, bind,
            Except.bind] at succeeds
      | ok prepared =>
          simp only [found, path, discarded, Except.mapError, bind,
            Except.bind, pure, Except.pure] at succeeds
          exact ⟨paths, prepared, rfl, rfl, succeeds⟩

/-- What a run writes that comes to an end. -/
structure Writes [FeatureSyntax] (options : RunOptions)
    (run after : ProjectRun Host) (executed : List (SpecRun Host)) : Prop where
  /-- All feature files that are found are executed, in the order of the names
  that lead to them. -/
  paths : ∃ paths, run.paths options = .ok paths ∧
    executed.map SpecRun.path = paths.filter Path.isFeature
  sorted : run.project.Sorted (executed.map SpecRun.path)
  streams : ∀ each ∈ executed, each.Streams
  /-- There is no output file if a hook has failed in each file. -/
  absent : (∀ each ∈ executed, each.session.stage.hookFailure = true) →
    ¬ after.project.HasFile options.output
  /-- Otherwise the output file has the messages about the files in which no
  hook has failed, if it was settled before where the path leads. -/
  lines : (∃ each ∈ executed, each.session.stage.hookFailure = false) →
    run.project.Settles options.output →
      ∃ text, after.project.read options.output = .ok text ∧
        Json.Lines text (executed.flatMap SpecRun.written)

/--
A run that comes to an end removes the output file and executes all feature
files, in order.  It leaves the messages about them in the output file, one on
each line, apart from those of files in which a hook has failed.
-/
theorem execute_writes [FeatureSyntax] {summary : Summary}
    (messages : options.messages = true)
    (succeeds :
      run.execute options library newWorld = (.ok (some summary), after)) :
    ∃ prepared executed,
      run.project.discard options.output = .ok prepared ∧
        Executes options (library.locatedFrom options.projectRoot) newWorld
          { run with project := prepared } executed after ∧
        Writes options run after executed := by
  obtain ⟨paths, prepared, found, discarded, ran⟩ :=
    exists_of_execute messages succeeds
  obtain ⟨executed, executes, listed⟩ := exists_executes ran
  obtain ⟨removed, cleared⟩ := Project.output_of_discard discarded
  refine ⟨prepared, executed, discarded, executes, ?_⟩
  constructor
  · exact ⟨paths, found, listed⟩
  · rw [listed]
    exact (sorted_of_paths found).filter _
  · exact executes.streams
  · intro failed
    rw [executes.project_eq messages failed]
    exact removed
  · intro succeeded settles
    have output := executes.output messages (cleared settles)
    rw [List.nil_append] at output
    have read := output.read (SpecRun.flatMap_written_ne_nil succeeded)
    rw [Option.getD_none, String.empty_append] at read
    refine ⟨_, read, Json.lines_of_named ?_⟩
    intro value among
    obtain ⟨run, -, own⟩ := List.mem_flatMap.mp among
    exact SpecRun.named_of_mem_written own

end ProjectRun

namespace Sample

/-- A project with an output file of another run. -/
def published : Project where
  root := "/p"
  files :=
    { entries :=
        [ (["a.feature"], .textFile "Feature:\n Scenario: A\n  Given a\n"),
          (["steps.rs"], .textFile ""),
          (["out"], .textFile "stale\n") ] }

def publishedLibrary : StepLibrary Unit where
  files := [("steps.rs", [.step (.expression "a") passing none])]

/-- The options of a run that writes messages. -/
def publishing (output : String) : RunOptions where
  stepDefinitions := ["*.rs"]
  specPattern := ["*.feature"]
  projectRoot := "/p"
  messages := true
  messagesOutput := output

def publishedRun (output : String) :
    Except ProjectError (Option Summary) × ProjectRun Unit :=
  ProjectRun.execute (publishing output) publishedLibrary
    (fun host => (.ok (), host)) { project := published, host := () }

theorem published_passed {output : String}
    (passed : (publishedRun output).1 = .ok (some { passed := 1 })) :
    ProjectRun.execute (publishing output) publishedLibrary
        (fun host => (.ok (), host)) { project := published, host := () } =
      (.ok (some { passed := 1 }), (publishedRun output).2) :=
  Prod.ext passed rfl

/-- The messages about the only feature file are in the output file, and
nothing of what was in it before. -/
theorem published_writes :
    (publishedRun "out").1 = .ok (some { passed := 1 }) ∧
      published.read "/p/out" = .ok "stale\n" ∧
      ∃ executed : List (SpecRun Unit),
        executed.map SpecRun.path = ["/p/a.feature"] ∧
          ∃ text,
            (publishedRun "out").2.project.read "/p/out" = .ok text ∧
              Json.Lines text (executed.flatMap SpecRun.written) := by
  have passed : (publishedRun "out").1 = .ok (some { passed := 1 }) := by
    decide +kernel
  have read : published.read "/p/out" = .ok "stale\n" := by
    decide +kernel
  have output : (publishing "out").output = "/p/out" := by decide +kernel
  obtain ⟨prepared, executed, -, -, writes⟩ :=
    ProjectRun.execute_writes rfl (published_passed passed)
  have hasFile : (publishedRun "out").2.project.HasFile "/p/out" := by
    have there :
        ((publishedRun "out").2.project.files.get? ["out"]).any
          FileEntry.isFile = true := by
      decide +kernel
    cases known : (publishedRun "out").2.project.files.get? ["out"] with
    | none => simp [known] at there
    | some entry =>
        exact ⟨"out", by decide +kernel, ["out"], entry, by decide +kernel,
          known, by simpa [known] using there⟩
  refine ⟨passed, read, executed, ?_, ?_⟩
  · obtain ⟨paths, found, listed⟩ := writes.paths
    have only :
        ProjectRun.paths { project := published, host := () }
          (publishing "out") = .ok ["/p/a.feature"] := by
      decide +kernel
    obtain rfl := Except.ok.inj (found.symm.trans only)
    rw [listed]
    decide +kernel
  · rw [← output]
    apply writes.lines
    · refine (SpecRun.failed_or_succeeded executed).resolve_left ?_
      exact fun failed => writes.absent failed (output ▸ hasFile)
    · intro inside within
      have known : published.inside? "/p/out" = some "out" := by
        decide +kernel
      rw [output, known] at within
      cases within
      exact Or.inr (by decide +kernel)

/-- A path through a directory that is not there yet leads to an output file of
another run, which is not removed: it is found only when the directory has been
made. -/
theorem published_keeps :
    (publishedRun "a/../out").1 = .ok (some { passed := 1 }) ∧
      published.read "/p/out" = .ok "stale\n" ∧
      ∃ text,
        (publishedRun "a/../out").2.project.read "/p/a/../out" =
          .ok ("stale\n" ++ text) := by
  have passed : (publishedRun "a/../out").1 = .ok (some { passed := 1 }) := by
    decide +kernel
  have output : (publishing "a/../out").output = "/p/a/../out" := by
    decide +kernel
  obtain ⟨paths, prepared, -, discarded, ran⟩ :=
    ProjectRun.exists_of_execute rfl (published_passed passed)
  have unchanged : published.discard (publishing "a/../out").output =
      .ok published := by
    decide +kernel
  obtain rfl := Except.ok.inj (discarded.symm.trans unchanged)
  obtain ⟨executed, executes, -⟩ := ProjectRun.exists_executes ran
  have succeeded :
      ∃ each ∈ executed, each.session.stage.hookFailure = false := by
    refine (SpecRun.failed_or_succeeded executed).resolve_left ?_
    intro failed
    have same := executes.project_eq rfl failed
    have made :
        (publishedRun "a/../out").2.project.files.get? ["a"] =
          some .directory := by
      decide +kernel
    have missing : published.files.get? ["a"] = none := by
      decide +kernel
    rw [same, missing] at made
    cases made
  have within : published.inside? (publishing "a/../out").output =
      some "a/../out" := by
    decide +kernel
  have there : published.files.get? (Files.target "a/../out") =
      some (.textFile "stale\n") := by
    decide +kernel
  have kept : published.Output (publishing "a/../out").output
      (some "stale\n") [] :=
    .kept within there
  have read := (executes.output rfl kept).read
    (SpecRun.flatMap_written_ne_nil succeeded)
  rw [output] at read
  exact ⟨passed, by decide +kernel, _, read⟩

end Sample

end ScenarioRunner
