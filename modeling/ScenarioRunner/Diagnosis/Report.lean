import ScenarioRunner.Console.Table
import ScenarioRunner.Console.Width
import ScenarioRunner.Diagnosis.Basic
import ScenarioRunner.Options.Basic

/-!
# Reports of a diagnosis

What is printed about a diagnosis: a table of all definitions with the steps
they are used for, and after it the ambiguous and the unmatched steps.  For
unmatched steps definitions are suggested.
-/

namespace ScenarioRunner

/-- The part of a suggested definition that the expression is put in for. -/
def snippetExpression : String := "[expression]"

/-- The part of a suggested definition that the arguments are put in for. -/
def snippetArguments : String := "[arguments]"

/-- A suggested definition. -/
def snippetTemplate : String :=
  s!"steps.define_step(\"{snippetExpression}\", |world, ctx| \x7B\n" ++
    s!"    // {snippetArguments}\n" ++
    "    async \x7B Ok(Outcome::Pending) \x7D.boxed_local()\n\x7D)?;"

namespace UnmatchedStep

/-- A text as it stands between double quotes. -/
def escapeQuotes (text : String) : String :=
  Text.replace "\"" "\\\"" (Text.replace "\\" "\\\\" text)

/-- The lines of a text. -/
def linesOf (text : String) : List String :=
  (Text.lines text.toList).map String.ofList

/-- The names of the arguments of a suggested definition. -/
def argumentNames (unmatched : UnmatchedStep) (suggestion : Suggestion) :
    String :=
  ", ".intercalate (suggestion.argumentNames ++
    unmatched.argument.toList.map (·.name))

/-- A definition made from a suggestion. -/
def snippet (unmatched : UnmatchedStep) (suggestion : Suggestion) : String :=
  let names := unmatched.argumentNames suggestion
  let text := Text.replace snippetExpression
    (escapeQuotes suggestion.source) snippetTemplate
  if names.isEmpty then
    "\n".intercalate
      ((linesOf text).filter (!Text.contains · snippetArguments))
  else Text.replace snippetArguments s!"Arguments: {names}." text

/-- The definitions that are suggested for a step. -/
def snippets (unmatched : UnmatchedStep) : List String :=
  unmatched.suggestions.map unmatched.snippet

end UnmatchedStep

namespace Diagnosis

/-- A line for each item. -/
def itemLines (items : List String) : String :=
  "\n".intercalate (items.map ("  - " ++ ·))

/-- What stands in front of a problem. -/
def errorLabel (colored : Bool) : String :=
  Console.paint colored .red "Error"

/-- The row of a definition: its text and site, and below them those of the
steps. -/
def usageRow (colored : Bool) (key : DefinitionKey)
    (steps : List StepUsage) : List String :=
  let unused := Console.paint colored .yellow "unused"
  let pattern :=
    if steps.isEmpty then s!"{key.expression} ({unused})" else key.expression
  ["\n".intercalate (pattern :: steps.map ("  " ++ ·.text)),
    "\n".intercalate (Site.describe key.site ::
      steps.map fun step => s!"{step.source}:{step.line}")]

/-- Whether the path of a site is not after that of another; unknown sites come
first. -/
def isNotAfter (first second : DefinitionKey) : Bool :=
  match first.site, second.site with
  | none, _ => true
  | some _, none => false
  | some first, some second => !decide (second.path < first.path)

/-- The definitions with those of a file next to each other. -/
def sortedUsage (diagnosis : Diagnosis) :
    List (DefinitionKey × List StepUsage) :=
  diagnosis.usage.mergeSort fun first second => isNotAfter first.1 second.1

/-- The table of all definitions. -/
def usageTable (colored : Bool) (diagnosis : Diagnosis) : Console.Table where
  head := ["Pattern / Text", "Location"]
  rows := diagnosis.sortedUsage.map fun (key, steps) =>
    usageRow colored key steps

/-- The text about an ambiguous step. -/
def ambiguousText (colored : Bool) (ambiguous : AmbiguousStep) : String :=
  let step := ambiguous.step
  s!"{errorLabel colored}: Multiple matching step definitions at " ++
    s!"{step.source}:{step.line} for\n\n  {step.text}\n\n" ++
    "Step matched the following definitions:\n\n" ++
    String.join (ambiguous.definitions.map fun key =>
      s!"  - {key.expression} ({Site.describe key.site})\n")

/-- The text that says which files were searched. -/
def searchedText (paths : List String) : String :=
  if paths.isEmpty then
    "These patterns matched *no files* containing step definitions. This " ++
      "almost certainly means that you have misconfigured " ++
      "`stepDefinitions`. Alternatively, you can implement it using the " ++
      "suggestion(s) below.\n"
  else
    s!"These patterns matched the following file(s):\n\n{itemLines paths}" ++
      "\n\nHowever, none of these files contained a matching step " ++
      "definition. You can implement it using the suggestion(s) below.\n"

/-- A suggested definition, moved to the right. -/
def indented (snippet : String) : String :=
  "\n".intercalate ((UnmatchedStep.linesOf snippet).map ("  " ++ ·))

/-- The text about an unmatched step. -/
def unmatchedText (colored : Bool) (unmatched : UnmatchedStep) : String :=
  let step := unmatched.step
  let hints := unmatched.hints
  s!"{errorLabel colored}: Step implementation missing at " ++
    s!"{step.source}:{step.line}\n\n  {step.text}\n\n" ++
    "We tried searching for files containing step definitions using the " ++
    s!"following search pattern template(s):\n\n{itemLines hints.templates}" ++
    "\n\nThese templates resolved to the following search pattern(s):\n\n" ++
    s!"{itemLines hints.patterns}\n\n" ++ searchedText hints.paths ++
    String.join (unmatched.snippets.map fun snippet =>
      s!"\n{indented snippet}\n")

/-- What to say if there is no problem. -/
def noProblems : String := "No problems found.\n"

/-- The whole report. -/
def report (colored : Bool) (diagnosis : Diagnosis) : String :=
  (diagnosis.usageTable colored).render Console.width ++ "\n\n" ++
    (if diagnosis.ambiguous.isEmpty then ""
      else String.join (diagnosis.ambiguous.map (ambiguousText colored)) ++
        "\n") ++
    String.join (diagnosis.unmatched.map (unmatchedText colored)) ++
    if diagnosis.hasProblems then "" else noProblems

end Diagnosis

namespace Project

/-- Find the feature files of a project and compare their steps with the step
definitions. -/
def diagnoseAll [FeatureSyntax] {Host : Type} (project : Project)
    (options : RunOptions) (library : StepLibrary Host) :
    Except ProjectError Diagnosis := do
  let paths ← project.discover options.specPattern
  project.diagnose options.stepDefinitions
    (library.locatedFrom options.projectRoot) paths

end Project

end ScenarioRunner
