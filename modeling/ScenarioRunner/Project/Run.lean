import ScenarioRunner.Options.Basic
import ScenarioRunner.Project.Library
import ScenarioRunner.Test.Runner

/-!
# Running a project

The tests of all feature files of a project are run, one file after the other.
If messages are wanted, those of each file are added to one output file, which
is removed first.  A hook that fails cannot be told by messages, so the
messages of a file in which one did are left out.  The first error ends the
run; what was done before stays.
-/

namespace ScenarioRunner

/-- The name of an identifier in an output file.  The names of a run are all
different. -/
def uniqueName (number : Nat) : String :=
  let digits := Text.hexadecimal number
  "00000000-0000-4000-8000-" ++
    String.ofList (List.replicate (12 - digits.length) '0' ++ digits)

/-- Add a report to an output file. -/
def Files.appendReport (files : Files) (path : String) (report : Report) :
    Except FileError Files :=
  if report.hookFailure then .ok files
  else files.appendBelow path report.text

namespace Project

/-- Remove a file if it is there. -/
def discard (project : Project) (path : String) :
    Except FileError Project :=
  match project.inside? path with
  | some inside =>
      (project.files.discard inside).map fun files => { project with files }
  | none => .ok project

/-- Add a report to an output file; nothing is written outside of the
project. -/
def appendReport (project : Project) (path : String) (report : Report) :
    Except FileError Project :=
  match project.inside? path with
  | some inside =>
      (project.files.appendReport inside report).map fun files =>
        { project with files }
  | none => .error .notFound

end Project

/-- What a run changes. -/
structure ProjectRun (Host : Type) where
  project : Project
  host : Host
  /-- The next identifier. -/
  next : Nat := 0

namespace ProjectRun

variable {Host : Type}

/-- Compose the tests of a feature file. -/
def compose [FeatureSyntax] (run : ProjectRun Host) (options : RunOptions)
    (library : StepLibrary Host) (path : String) :
    Except ProjectError (Spec Host × Session Host) := do
  let project := run.project
  let (file, next) ←
    project.readFeature path (project.relative path) run.next
  let hints ← project.search options.stepDefinitions path
  let (registry, next) ← library.build hints.paths next
  let ((spec, messages), next) :=
    (Spec.compose registry file.source file.document file.pickles
      (options.composeOptions hints)).run next
  return (spec, .start spec messages run.host next)

/-- Write the messages about a feature file if they are wanted. -/
def write (run : ProjectRun Host) (options : RunOptions) (spec : Spec Host)
    (session : Session Host) : Except ProjectError (ProjectRun Host) :=
  match options.messagesPath?, session.report? spec with
  | some path, some report =>
      let report := report.nameIdentifiers uniqueName
      ((run.project.appendReport path report).map fun project =>
        { run with project }).mapError .file
  | _, _ => .ok run

/-- Run the tests of feature files.  There is no outcome if a test is
suspended. -/
def specs [FeatureSyntax] (options : RunOptions) (library : StepLibrary Host)
    (newWorld : WorldMaker Host) (summary : Summary) :
    List String → ProjectRun Host →
      Except ProjectError (Option Summary) × ProjectRun Host
  | [], run => (.ok (some summary), run)
  | path :: paths, run =>
      match run.compose options library path with
      | .error reason => (.error reason, run)
      | .ok (spec, session) =>
          let (found, session) :=
            session.run spec newWorld (options.retries.getD 0)
          let run :=
            { run with host := session.stage.host, next := session.stage.next }
          match found with
          | none => (.ok none, run)
          | some found =>
              match run.write options spec session with
              | .error reason => (.error reason, run)
              | .ok run =>
                  specs options library newWorld (summary.merge found) paths
                    run

/-- The files whose tests are to be run. -/
def paths [FeatureSyntax] (run : ProjectRun Host) (options : RunOptions) :
    Except ProjectError (List String) := do
  let found ← run.project.discover options.specPattern
  match options.filterSpecs, options.tags with
  | true, some tags => run.project.filterSpecs tags found
  | _, _ => return found

/-- Run the tests of a project. -/
def execute [FeatureSyntax] (options : RunOptions) (library : StepLibrary Host)
    (newWorld : WorldMaker Host) (run : ProjectRun Host) :
    Except ProjectError (Option Summary) × ProjectRun Host :=
  let prepared : Except ProjectError (List String × Project) := do
    let paths ← run.paths options
    let project ←
      match options.messagesPath? with
      | none => pure run.project
      | some path => (run.project.discard path).mapError .file
    return (paths.filter Path.isFeature, project)
  match prepared with
  | .error reason => (.error reason, run)
  | .ok (paths, project) =>
      specs options (library.locatedFrom options.projectRoot) newWorld {}
        paths { run with project }

end ProjectRun

end ScenarioRunner
