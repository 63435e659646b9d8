import ScenarioRunner.Feature.Document

/-!
# Pickles

A pickle is a scenario ready to be run: the steps of its backgrounds and its
own steps, with the values of one row of examples in place of placeholders.
-/

namespace ScenarioRunner

/-- The argument of a step of a pickle, which may have both forms. -/
structure PickleArgument where
  docString : Option String := none
  table : Option (List (List String)) := none
  deriving DecidableEq, Repr, Inhabited

/-- A step of a pickle.  It refers to the step it is made from and to the row
of examples whose values it holds. -/
structure PickleStep (Id : Type) where
  id : Id
  text : String
  argument : Option PickleArgument := none
  nodeIds : List Id
  kind : StepKind
  deriving DecidableEq, Repr, Inhabited

/-- A tag of a pickle with the tag of the document it comes from. -/
structure PickleTag (Id : Type) where
  name : String
  nodeId : Id
  deriving DecidableEq, Repr, Inhabited

/-- A scenario ready to be run.  It refers to the scenario and to the row of
examples it is made from. -/
structure Pickle (Id : Type) where
  id : Id
  uri : String
  name : String
  steps : List (PickleStep Id)
  tags : List (PickleTag Id)
  nodeIds : List Id
  deriving DecidableEq, Repr, Inhabited

namespace Pickle

variable {Id : Type}

/-- The names of the tags of a pickle. -/
def tagNames (pickle : Pickle Id) : List String :=
  pickle.tags.map (·.name)

end Pickle

end ScenarioRunner
