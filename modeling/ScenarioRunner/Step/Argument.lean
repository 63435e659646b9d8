import ScenarioRunner.Pickle.Basic
import ScenarioRunner.Step.DataTable

/-!
# Arguments of steps

What a step receives below its text: a table or a quoted text.
-/

namespace ScenarioRunner

/-- The argument of a step. -/
inductive StepArgument where
  | dataTable (table : DataTable)
  | docString (content : String)
  deriving DecidableEq, Repr

namespace StepArgument

/-- The argument that a step of a pickle has.  A table comes before a text,
and an empty text is no argument. -/
def ofPickle (argument : PickleArgument) : Option StepArgument :=
  match argument.table, argument.docString with
  | some rows, _ => some (.dataTable ⟨rows⟩)
  | none, some content =>
      if content.isEmpty then none else some (.docString content)
  | none, none => none

/-- The name of the kind of an argument. -/
def kind : StepArgument → String
  | .dataTable _ => "dataTable"
  | .docString _ => "docString"

end StepArgument

/-- The argument that a step of a pickle has, if any. -/
def PickleStep.stepArgument {Id : Type} (step : PickleStep Id) :
    Option StepArgument :=
  step.argument.bind StepArgument.ofPickle

end ScenarioRunner
