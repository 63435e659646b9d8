import ScenarioRunner.Expression.Suggestion
import ScenarioRunner.Project.Library
import ScenarioRunner.Text.Quoted

/-!
# Diagnosis

The steps of feature files are compared with step definitions without running
anything.  Every step of a pickle is recorded once: with the only definition
that matches it, as unmatched, or as ambiguous.  Definitions of the same text
at the same site count as one, whichever file they are found for.
-/

namespace ScenarioRunner

/-- Where a step stands in a feature file. -/
structure StepUsage where
  source : String
  line : Nat
  text : String
  deriving DecidableEq, Repr, Inhabited

/-- What tells a definition from others: its text, quoted unless it is a
regular expression, and its site. -/
structure DefinitionKey where
  expression : String
  site : Option Site
  deriving DecidableEq, Repr, Inhabited

/-- The key of a definition. -/
def StepDefinition.key {Host : Type} (definition : StepDefinition Host) :
    DefinitionKey where
  expression :=
    match definition.expression with
    | .template value => Text.quoted value.source
    | .regular _ => definition.expression.canonical
  site := definition.site

/-- What a step has below its text. -/
inductive ArgumentKind where
  | dataTable
  | docString
  deriving DecidableEq, Repr

/-- The name of an argument of a kind. -/
def ArgumentKind.name : ArgumentKind → String
  | .dataTable => "dataTable"
  | .docString => "docString"

/-- The kind of the argument of a step, if it has one.  A table comes before a
text. -/
def PickleArgument.kind? (argument : PickleArgument) : Option ArgumentKind :=
  if argument.table.isSome then some .dataTable
  else if argument.docString.isSome then some .docString
  else none

/-- A step that no definition matches. -/
structure UnmatchedStep where
  step : StepUsage
  argument : Option ArgumentKind
  hints : SearchHints
  suggestions : List Suggestion
  deriving DecidableEq, Repr

/-- A step that several definitions match. -/
structure AmbiguousStep where
  step : StepUsage
  definitions : List DefinitionKey
  deriving DecidableEq, Repr

/-- What is found out about steps and definitions. -/
structure Diagnosis where
  /-- The steps that each definition is used for. -/
  usage : List (DefinitionKey × List StepUsage) := []
  unmatched : List UnmatchedStep := []
  ambiguous : List AmbiguousStep := []
  deriving DecidableEq, Repr

namespace Diagnosis

/-- The definitions that are used for no step. -/
def unused (diagnosis : Diagnosis) : List DefinitionKey :=
  (diagnosis.usage.filter (·.2.isEmpty)).map (·.1)

/-- Whether some step is unmatched or ambiguous. -/
def hasProblems (diagnosis : Diagnosis) : Bool :=
  !diagnosis.unmatched.isEmpty || !diagnosis.ambiguous.isEmpty

/-- Record the steps of a definition; those recorded before are forgotten, and
the definition comes last. -/
def put (diagnosis : Diagnosis) (key : DefinitionKey)
    (steps : List StepUsage) : Diagnosis :=
  { diagnosis with
    usage := diagnosis.usage.filter (·.1 != key) ++ [(key, steps)] }

/-- Record a definition unless it is known. -/
def addDefinition (diagnosis : Diagnosis) (key : DefinitionKey) :
    Diagnosis :=
  if diagnosis.usage.any (·.1 == key) then diagnosis
  else { diagnosis with usage := diagnosis.usage ++ [(key, [])] }

/-- Record a step with the definition that matches it. -/
def addUsage (diagnosis : Diagnosis) (key : DefinitionKey)
    (step : StepUsage) : Diagnosis :=
  { diagnosis with
    usage := diagnosis.usage.map fun (known, steps) =>
      if known = key then (known, steps ++ [step]) else (known, steps) }

/-- Record a step of a pickle. -/
def addStep {Host : Type} (registry : Registry Host) (hints : SearchHints)
    (step : StepUsage) (argument : Option ArgumentKind)
    (diagnosis : Diagnosis) : Diagnosis :=
  match registry.matching step.text with
  | [] =>
      let unmatched : UnmatchedStep :=
        { step, argument, hints
          suggestions := Suggestion.generate registry.parameters step.text }
      { diagnosis with unmatched := diagnosis.unmatched ++ [unmatched] }
  | [definition] => diagnosis.addUsage definition.key step
  | definitions =>
      let ambiguous : AmbiguousStep :=
        { step, definitions := definitions.map (·.key) }
      { diagnosis with ambiguous := diagnosis.ambiguous ++ [ambiguous] }

end Diagnosis

/-- The lines of the steps of a document, by their identifiers. -/
def Document.stepLines {Id : Type} (document : Document Id) :
    List (Id × Nat) :=
  (document.feature.toList.flatMap (·.children)).flatMap fun
    | .background value => ofSteps value.steps
    | .scenario value => ofSteps value.steps
    | .rule value =>
        value.children.flatMap fun
          | .background value => ofSteps value.steps
          | .scenario value => ofSteps value.steps
where
  ofSteps (steps : List (Step Id)) : List (Id × Nat) :=
    steps.map fun step => (step.id, step.location.line)

/-- The line of the step that a step of a pickle is made from. -/
def Document.lineOf (document : Document Nat) (step : PickleStep Nat) :
    Nat :=
  ((step.nodeIds.head?).bind (List.lookup · document.stepLines)).getD 0

namespace Diagnosis

/-- Record the definitions of a registry and the steps of a feature file. -/
def addFile {Host : Type} (registry : Registry Host) (hints : SearchHints)
    (source : String) (file : FeatureFile) (diagnosis : Diagnosis) :
    Diagnosis :=
  let diagnosis :=
    (registry.steps.map (·.key)).foldl addDefinition diagnosis
  (file.pickles.flatMap (·.steps)).foldl
    (fun diagnosis step =>
      diagnosis.addStep registry hints
        { source, line := file.document.lineOf step, text := step.text }
        (step.argument.bind (·.kind?)))
    diagnosis

end Diagnosis

namespace Project

/-- Record a file; only feature files count. -/
def diagnoseFile [FeatureSyntax] {Host : Type} (project : Project)
    (templates : List String) (library : StepLibrary Host)
    (diagnosis : Diagnosis) (path : String) :
    Except ProjectError Diagnosis := do
  if !Path.isFeature path then return diagnosis
  let hints ← project.search templates path
  let (registry, _) ← library.build hints.paths 0
  let source := project.relative path
  let (file, _) ← project.readFeature path source 0
  return diagnosis.addFile registry hints source file

/-- Compare the steps of files with the step definitions that are found for
them. -/
def diagnose [FeatureSyntax] {Host : Type} (project : Project)
    (templates : List String) (library : StepLibrary Host)
    (paths : List String) :
    Except ProjectError Diagnosis :=
  paths.foldlM (project.diagnoseFile templates library) {}

end Project

end ScenarioRunner
