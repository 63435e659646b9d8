import ScenarioRunner.Feature.File
import ScenarioRunner.Glob.Selection
import ScenarioRunner.Project.Files
import ScenarioRunner.Project.Templates
import ScenarioRunner.Registry.Definition
import ScenarioRunner.Test.Missing

/-!
# Projects

A project is a tree of files below a root directory.  Its feature files are
found by patterns; the step definitions of a feature file are looked for by
templates.
-/

namespace ScenarioRunner

/-- Why something cannot be done with a project. -/
inductive ProjectError where
  | file (reason : FileError)
  | glob (reason : Glob.SyntaxError)
  | feature (reason : FeatureFile.SyntaxError)
  | registry (reason : BuildError)
  deriving DecidableEq, Repr

/-- The files below a root directory. -/
structure Project where
  root : String
  files : Files
  deriving DecidableEq, Repr, Inhabited

namespace Project

/-- The part of a path below the root. -/
def inside? (project : Project) (path : String) : Option String :=
  ((Path.join project.root "").toList.isPrefixOf? path.toList).map
    String.ofList

/-- The text of a file; nothing is read outside of the project. -/
def read (project : Project) (path : String) : Except FileError String :=
  match project.inside? path with
  | some inside => project.files.read inside
  | none => .error .notFound

/-- A path relative to the root.  If it leads to something, it is given by the
names that lead there. -/
def relative (project : Project) (path : String) : String :=
  Path.withSlashes
    (match (project.inside? path).bind project.files.canonical? with
    | some place => "/".intercalate place
    | none => Path.relativeTo project.root path)

/-- Read a feature file, whose document gets a name. -/
def readFeature [FeatureSyntax] (project : Project) (path uri : String)
    (next : Nat) :
    Except ProjectError (FeatureFile × Nat) := do
  let source ← (project.read path).mapError .file
  (FeatureFile.parse uri source next).mapError .feature

/-- The places of the files that patterns select. -/
def select (project : Project) (patterns : List String) :
    Except ProjectError (List Place) :=
  ((Glob.Selection.read patterns).mapError ProjectError.glob).map
    fun selection => project.files.places.filter selection.selects

/-- The feature files that patterns select, in the order of the names that lead
to them. -/
def discover (project : Project) (patterns : List String) :
    Except ProjectError (List String) :=
  (project.select patterns).map fun places =>
    (places.mergeSort (fun first second => !decide (second < first))).map
      fun place => Path.join project.root ("/".intercalate place)

/-- Whether a file may hold tests that the tags select: a feature file has to
have a pickle that they select, and any other file may. -/
def mayHold [FeatureSyntax] (project : Project) (tags : TagExpression)
    (path : String) :
    Except ProjectError Bool :=
  if Path.isFeature path then
    (project.readFeature path path 0).map fun (file, _) =>
      file.pickles.any fun pickle =>
        TagExpression.selects (some tags) pickle.tagNames
  else .ok true

/-- The files that may hold tests that the tags select. -/
def filterSpecs [FeatureSyntax] (project : Project) (tags : TagExpression)
    (paths : List String) : Except ProjectError (List String) :=
  paths.filterM (project.mayHold tags)

/-- Look for the step definitions of a feature file. -/
def search (project : Project) (templates : List String) (feature : String) :
    Except ProjectError SearchHints :=
  let patterns := Templates.patterns templates project.root feature
  (project.select patterns).map fun places =>
    { templates
      patterns
      paths :=
        (places.map fun place =>
          Path.withSlashes ("/".intercalate place)).mergeSort
            (fun first second => !decide (second < first)) }

end Project

end ScenarioRunner
