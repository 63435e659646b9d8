/-!
# Keywords of feature files

A dialect holds the keywords of one language.  A keyword of a step includes the
space behind it.  A description ends before a line that starts with a keyword
of what may follow the description; which ones these are depends on what is
described.

Readers take the keywords they look for from a dialect, and which dialects
there are is a parameter of the reader of a whole feature.
-/

namespace ScenarioRunner.FeatureText

/-- The keywords of a language. -/
structure Dialect where
  feature : List String
  background : List String
  rule : List String
  scenario : List String
  outline : List String
  examples : List String
  given : List String
  when : List String
  then' : List String
  and : List String
  but : List String
  deriving DecidableEq, Repr

namespace Dialect

/-- The keywords of English, in which a file is that names no language. -/
def english : Dialect where
  feature := ["Feature", "Business Need", "Ability"]
  background := ["Background"]
  rule := ["Rule"]
  scenario := ["Example", "Scenario"]
  outline := ["Scenario Outline", "Scenario Template"]
  examples := ["Examples", "Scenarios"]
  given := ["* ", "Given "]
  when := ["* ", "When "]
  then' := ["* ", "Then "]
  and := ["* ", "And "]
  but := ["* ", "But "]

/-- The keywords of a step of the same kind as the one before. -/
def conjunction (dialect : Dialect) : List String :=
  dialect.and ++ dialect.but

/-- The keywords of all steps. -/
def step (dialect : Dialect) : List String :=
  dialect.given ++ dialect.when ++ dialect.then' ++ dialect.conjunction

/-- What ends the description of a feature. -/
def afterFeature (dialect : Dialect) : List String :=
  dialect.background ++ dialect.scenario ++ dialect.outline ++ dialect.rule

/-- What ends the description of a rule. -/
def afterRule (dialect : Dialect) : List String :=
  dialect.background ++ dialect.scenario ++ dialect.outline

/-- What ends the description of a background. -/
def afterBackground (dialect : Dialect) : List String :=
  dialect.scenario ++ dialect.outline ++ dialect.step

/-- What ends the description of a scenario. -/
def afterScenario (dialect : Dialect) : List String :=
  dialect.scenario ++ dialect.outline ++ dialect.step ++ dialect.examples

/-- What ends the description of examples, among them the bar of a table. -/
def afterExamples (dialect : Dialect) : List String :=
  dialect.scenario ++ dialect.outline ++ dialect.examples ++ ["|"]

/-- The dialect of a language by its name.  Only English is known. -/
def named? : String → Option Dialect
  | "en" => some english
  | _ => none

end Dialect

end ScenarioRunner.FeatureText
