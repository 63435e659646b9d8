/-!
# Feature documents

The tree of a feature file: a feature holds backgrounds, scenarios and rules,
a rule holds backgrounds and scenarios, and these hold steps.  The nodes that
other data refer to carry an identifier.  The tree is generic in the type of
the identifiers: reading a text gives a bare tree, whose identifiers are all
`()`, and numbering a bare tree gives one whose identifiers are numbers.
-/

namespace ScenarioRunner

/-- A position in a feature file; lines and columns count from one. -/
structure Location where
  line : Nat
  column : Option Nat := none
  deriving DecidableEq, Repr, Inhabited

/-- A tag with its leading `@`. -/
structure Tag (Id : Type) where
  location : Location
  name : String
  id : Id
  deriving DecidableEq, Repr, Inhabited

/-- A row of a table; all cells of a row share the position of the row. -/
structure TableRow (Id : Type) where
  id : Id
  location : Location
  cells : List String
  deriving DecidableEq, Repr, Inhabited

/-- The table below a step. -/
structure StepTable (Id : Type) where
  location : Location
  rows : List (TableRow Id)
  deriving DecidableEq, Repr, Inhabited

/-- The quoted text below a step. -/
structure DocString where
  location : Location
  content : String
  deriving DecidableEq, Repr, Inhabited

/-- What a step does: set the scene, act, or check. -/
inductive StepKind where
  | context
  | action
  | outcome
  deriving DecidableEq, Repr, Inhabited

/-- A step with its keyword as written. -/
structure Step (Id : Type) where
  id : Id
  location : Location
  keyword : String
  kind : StepKind
  text : String
  docString : Option DocString := none
  table : Option (StepTable Id) := none
  deriving DecidableEq, Repr, Inhabited

/-- The steps that come before those of every scenario beside it. -/
structure Background (Id : Type) where
  id : Id
  location : Location
  keyword : String
  steps : List (Step Id)
  deriving DecidableEq, Repr, Inhabited

/-- A table of values for the placeholders of a scenario. -/
structure Examples (Id : Type) where
  id : Id
  location : Location
  tags : List (Tag Id)
  keyword : String
  header : Option (TableRow Id)
  body : List (TableRow Id)
  deriving DecidableEq, Repr, Inhabited

/-- A scenario, or an outline if it has examples. -/
structure Scenario (Id : Type) where
  id : Id
  location : Location
  tags : List (Tag Id)
  keyword : String
  name : String
  description : String
  steps : List (Step Id)
  examples : List (Examples Id)
  deriving DecidableEq, Repr, Inhabited

/-- A background or a scenario of a rule. -/
inductive RuleChild (Id : Type) where
  | background (value : Background Id)
  | scenario (value : Scenario Id)
  deriving DecidableEq, Repr

/-- A group of scenarios. -/
structure Rule (Id : Type) where
  id : Id
  location : Location
  tags : List (Tag Id)
  keyword : String
  name : String
  description : String
  children : List (RuleChild Id)
  deriving DecidableEq, Repr, Inhabited

/-- A background, a scenario or a rule of a feature. -/
inductive FeatureChild (Id : Type) where
  | background (value : Background Id)
  | scenario (value : Scenario Id)
  | rule (value : Rule Id)
  deriving DecidableEq, Repr

/-- The content of a feature file. -/
structure Feature (Id : Type) where
  location : Location
  tags : List (Tag Id)
  keyword : String
  name : String
  description : String
  children : List (FeatureChild Id)
  deriving DecidableEq, Repr, Inhabited

/-- A feature file with the path that names it; a blank file has no
feature. -/
structure Document (Id : Type) where
  uri : String
  feature : Option (Feature Id)
  deriving DecidableEq, Repr, Inhabited

namespace Scenario

variable {Id : Type}

/-- The tags of a scenario followed by those of its examples. -/
def allTags (scenario : Scenario Id) : List (Tag Id) :=
  scenario.tags ++ scenario.examples.flatMap (·.tags)

end Scenario

namespace RuleChild

variable {Id : Type}

/-- The scenario among the children of a rule. -/
def scenario? : RuleChild Id → Option (Scenario Id)
  | .scenario value => some value
  | .background _ => none

/-- Every tag at or below a child of a rule. -/
def allTags : RuleChild Id → List (Tag Id)
  | .scenario value => value.allTags
  | .background _ => []

end RuleChild

namespace FeatureChild

variable {Id : Type}

/-- Every tag at or below a child of a feature. -/
def allTags : FeatureChild Id → List (Tag Id)
  | .rule value => value.tags ++ value.children.flatMap RuleChild.allTags
  | .scenario value => value.allTags
  | .background _ => []

end FeatureChild

namespace Document

variable {Id : Type}

/-- Every tag of a document, in the order of the text. -/
def allTags (document : Document Id) : List (Tag Id) :=
  match document.feature with
  | none => []
  | some feature =>
      feature.tags ++ feature.children.flatMap FeatureChild.allTags

@[simp] theorem allTags_of_no_feature (uri : String) :
    (Document.mk uri none : Document Id).allTags = [] := rfl

end Document

/--
A way to write features.  The languages with their keywords belong to it, so
what is said about feature files holds in any of them.
-/
class FeatureSyntax where
  /-- The feature that a text holds, if the whole text is a feature. -/
  read? : String → Option (Feature Unit)

end ScenarioRunner
