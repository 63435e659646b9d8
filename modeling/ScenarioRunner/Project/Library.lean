import ScenarioRunner.Project.Basic

/-!
# Libraries of step definitions

The definitions of all source files that are known, by the paths of the files.
Which of them a feature file is run with depends on the files that are found
for it.
-/

namespace ScenarioRunner

/-- The definitions of some source files. -/
structure StepLibrary (Host : Type) where
  files : List (String × List (Definition Host)) := []

namespace StepLibrary

variable {Host : Type}

/-- Add a source file; one with the same path is replaced and comes last. -/
def add (library : StepLibrary Host) (path : String)
    (definitions : List (Definition Host)) : StepLibrary Host where
  files := library.files.filter (·.1 != path) ++ [(path, definitions)]

/-- The paths of the source files. -/
def paths (library : StepLibrary Host) : List String :=
  library.files.map (·.1)

/-- The definitions of a source file; one that is not known has none. -/
def definitions (library : StepLibrary Host) (path : String) :
    List (Definition Host) :=
  (library.files.lookup path).getD []

/-- The registry of the definitions of some source files, in their order. -/
def build (library : StepLibrary Host) (paths : List String) (next : Nat) :
    Except ProjectError (Registry Host × Nat) :=
  (Registry.ofDefinitions (paths.flatMap library.definitions) next).mapError
    .registry

/-- The library with the paths of all sites taken relative to a root. -/
def locatedFrom (library : StepLibrary Host) (root : String) :
    StepLibrary Host where
  files := library.files.map fun (path, definitions) =>
    (path, definitions.map (·.mapSite (Option.map (Site.relativeTo root))))

end StepLibrary

end ScenarioRunner
