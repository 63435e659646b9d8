import ScenarioRunner.Feature.Numbering
import ScenarioRunner.Registry.Basic
import ScenarioRunner.Tag.Parser

/-!
# Building a registry

Definitions are collected first and compiled afterwards, when all parameter
types are known.  A hook draws its identifier when it is defined, a step
definition when it is compiled.
-/

namespace ScenarioRunner

/-- What a step definition matches texts with, before it is compiled. -/
inductive StepPattern where
  | expression (source : String)
  | regular (regex : Regex)

/-- A step definition that is not compiled yet. -/
structure PendingStep (Host : Type) where
  pattern : StepPattern
  body : StepBody Host
  site : Option Site

/-- Why a definition is not accepted. -/
inductive DefinitionError where
  | emptyPattern
  | malformedTags (keyword : HookKeyword) (source : String)
      (reason : TagExpression.SyntaxError)
  | parameter (reason : ParameterType.DefinitionError)
  /-- A regular expression that does not compile. -/
  | invalidRegex
  deriving DecidableEq, Repr

/-- The text of an error about an argument of the given kind. -/
def unexpectedArgument (kind reason : String) : String :=
  s!"Unexpected argument for {kind}: {reason}"

/-- The text of an error. -/
def DefinitionError.message : DefinitionError → String
  | .emptyPattern =>
      unexpectedArgument "step definition"
        "expected a string or a regular expression"
  | .malformedTags keyword source reason =>
      unexpectedArgument (keyword.name ++ " hook") (reason.message source)
  | .parameter reason => reason.message
  | .invalidRegex => unexpectedArgument "regex" "invalid"

/-- An expression that cannot be compiled. -/
structure FinalizeError where
  source : String
  reason : Expression.CompileError
  deriving DecidableEq, Repr

/-- The definitions collected so far. -/
structure RegistryBuilder (Host : Type) where
  parameters : ParameterRegistry := {}
  steps : List (PendingStep Host) := []
  hooks : List (Hook Host) := []

namespace StepPattern

/-- Whether a pattern is the empty text. -/
def isEmpty : StepPattern → Bool
  | .expression source => source.isEmpty
  | .regular regex => regex.source.isEmpty

/-- Compile a pattern. -/
def compile (parameters : ParameterRegistry) :
    StepPattern → Except FinalizeError Expression
  | .expression source =>
      match Expression.Template.compile parameters source with
      | .ok template => .ok (.template template)
      | .error reason => .error { source, reason }
  | .regular regex => .ok (.regular regex)

end StepPattern

namespace RegistryBuilder

variable {Host : Type}

/-- Add a step definition. -/
def defineStep (builder : RegistryBuilder Host) (step : PendingStep Host) :
    Except DefinitionError (RegistryBuilder Host) :=
  if step.pattern.isEmpty then .error .emptyPattern
  else .ok { builder with steps := builder.steps ++ [step] }

/-- Add a parameter type. -/
def defineParameter (builder : RegistryBuilder Host)
    (definition : ParameterDefinition) :
    Except DefinitionError (RegistryBuilder Host) :=
  match builder.parameters.define definition with
  | .ok parameters => .ok { builder with parameters }
  | .error reason => .error (.parameter reason)

/-- The filter of a hook without the blanks around it; an empty one is
none. -/
def hookFilter (tags : Option String) : Option String :=
  (tags.map Text.trim).filter (!·.isEmpty)

/-- Read the filter of a hook. -/
def parseFilter (keyword : HookKeyword) :
    Option String → Except DefinitionError (Option TagExpression)
  | none => .ok none
  | some source =>
      match TagExpression.parse source with
      | .ok expression => .ok (some expression)
      | .error reason => .error (.malformedTags keyword source reason)

/-- Add a hook, drawing its identifier. -/
def defineHook (builder : RegistryBuilder Host) (keyword : HookKeyword)
    (tags : Option String) (body : HookBody Host) (site : Option Site)
    (next : Nat) : Except DefinitionError (RegistryBuilder Host × Nat) :=
  let tagSource := hookFilter tags
  (parseFilter keyword tagSource).map fun tags =>
    let hook : Hook Host :=
      { id := next, keyword, tags, tagSource, body, site }
    ({ builder with hooks := builder.hooks ++ [hook] }, next + 1)

/-- Compile step definitions one after the other, drawing identifiers. -/
def compileSteps (parameters : ParameterRegistry) :
    List (PendingStep Host) → Nat →
      Except FinalizeError (List (StepDefinition Host) × Nat)
  | [], next => .ok ([], next)
  | step :: others, next => do
      let expression ← step.pattern.compile parameters
      let (compiled, last) ← compileSteps parameters others (next + 1)
      let definition : StepDefinition Host :=
        { id := next, expression, body := step.body, site := step.site }
      return (definition :: compiled, last)

/-- Compile all step definitions against the parameter types. -/
def finalize (builder : RegistryBuilder Host) (next : Nat) :
    Except FinalizeError (Registry Host × Nat) :=
  (compileSteps builder.parameters builder.steps next).map
    fun (steps, last) =>
      ({ parameters := builder.parameters, steps, hooks := builder.hooks },
        last)

end RegistryBuilder

end ScenarioRunner
