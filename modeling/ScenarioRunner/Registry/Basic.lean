import ScenarioRunner.Step.Body
import ScenarioRunner.Step.Site
import ScenarioRunner.Tag.Expression

/-!
# Step definitions, hooks and their registry

A registry holds compiled step definitions and hooks in the order in which
they were defined.  The text of a step resolves to the one definition that
matches it; a text that none or several match is an error, and so is a capture
that its parameter type does not accept.
-/

namespace ScenarioRunner

/-- A compiled step definition. -/
structure StepDefinition (Host : Type) where
  id : Nat
  expression : Expression
  body : StepBody Host
  site : Option Site

/-- A hook, which applies to the tests whose tags its filter selects. -/
structure Hook (Host : Type) where
  id : Nat
  keyword : HookKeyword
  tags : Option TagExpression
  /-- The filter as it was written. -/
  tagSource : Option String
  body : HookBody Host
  site : Option Site

/-- Why a text does not resolve to a step definition. -/
inductive ResolveError where
  | missing (text : String)
  /-- Several definitions match; these are their expressions and sites. -/
  | ambiguous (text : String) (matching : List (String × Option Site))
  deriving DecidableEq, Repr

/-- The text of an error. -/
def ResolveError.message : ResolveError → String
  | .missing text => s!"Step implementation missing for: {text}"
  | .ambiguous text matching =>
      s!"Multiple matching step definitions for: {text}" ++
        String.join (matching.map fun (expression, site) =>
          "\n " ++ expression ++
            (site.map fun known => " - " ++ known.render).getD "")

/-- Why a step cannot be run. -/
inductive RunError where
  | unresolved (reason : ResolveError)
  | untransformed (parameter text reason : String)
  deriving DecidableEq, Repr

/-- The text of an error. -/
def RunError.message : RunError → String
  | .unresolved reason => reason.message
  | .untransformed parameter text reason =>
      s!"Failed to transform `{text}` with parameter type " ++
        s!"`\x7B{parameter}\x7D`: {reason}"

/-- The definitions that tests are run with. -/
structure Registry (Host : Type) where
  parameters : ParameterRegistry := {}
  steps : List (StepDefinition Host) := []
  hooks : List (Hook Host) := []

namespace StepDefinition

variable {Host : Type}

/-- Whether a definition matches a text. -/
def isMatch (definition : StepDefinition Host) (text : String) : Bool :=
  definition.expression.isMatch text

/-- The value of a capture, or why there is none. -/
def captured (capture : Capture) : Except RunError CapturedValue :=
  match capture.value with
  | .ok value => .ok ⟨capture.text, value⟩
  | .error reason =>
      .error (.untransformed ((capture.type.map (·.name)).getD "")
        (capture.text.getD "") reason)

/-- The values that a definition captures from a text, or why the first that
cannot be had is not. -/
def captures (definition : StepDefinition Host) (text : String) :
    Except RunError (List CapturedValue) :=
  ((definition.expression.match? text).getD []).mapM captured

/-- The message that describes a definition. -/
def envelope (definition : StepDefinition Host) : Envelope Nat :=
  .stepDefinition definition.id definition.expression.source
    (match definition.expression with
    | .template _ => false
    | .regular _ => true)
    (Site.reference definition.site)

end StepDefinition

namespace Hook

variable {Host : Type}

/-- Whether a hook of a kind applies to a test with some tags. -/
def applies (hook : Hook Host) (keyword : HookKeyword)
    (tags : List String) : Bool :=
  hook.keyword == keyword && TagExpression.selects hook.tags tags

/-- The message that describes a hook. -/
def envelope (hook : Hook Host) : Envelope Nat :=
  .hook hook.id hook.tagSource (Site.reference hook.site)

end Hook

namespace Registry

variable {Host : Type}

/-- The definitions that match a text, in order. -/
def matching (registry : Registry Host) (text : String) :
    List (StepDefinition Host) :=
  registry.steps.filter (·.isMatch text)

/-- The only definition that matches a text. -/
def resolve (registry : Registry Host) (text : String) :
    Except ResolveError (StepDefinition Host) :=
  match registry.matching text with
  | [] => .error (.missing text)
  | [definition] => .ok definition
  | definitions =>
      .error (.ambiguous text (definitions.map fun definition =>
        (definition.expression.canonical, definition.site)))

/-- Run the step with a text and an argument. -/
def run (registry : Registry Host) (text : String)
    (argument : Option StepArgument) (scope : Scope) (host : Host) :
    Except RunError (Performance Host Outcome) :=
  match registry.resolve text with
  | .error reason => .error (.unresolved reason)
  | .ok definition =>
      (definition.captures text).map fun captures =>
        definition.body { scope, captures, argument } host

/-- The hooks of a kind that apply to a test with some tags, in order. -/
def hooksFor (registry : Registry Host) (keyword : HookKeyword)
    (tags : List String) : List (Hook Host) :=
  registry.hooks.filter (·.applies keyword tags)

/-- The messages that describe all definitions, steps before hooks. -/
def envelopes (registry : Registry Host) : List (Envelope Nat) :=
  registry.steps.map (·.envelope) ++ registry.hooks.map (·.envelope)

theorem resolve_eq_ok_iff (registry : Registry Host) (text : String)
    (definition : StepDefinition Host) :
    registry.resolve text = .ok definition ↔
      registry.matching text = [definition] := by
  unfold resolve
  split <;> simp_all

end Registry

end ScenarioRunner
