import ScenarioRunner.Tag.Expression
import ScenarioRunner.Tag.Token

/-!
# Printing tag expressions

Every operator is printed with brackets, so that the grouping can be read off
the text.
-/

namespace ScenarioRunner.TagExpression

/-- A tag with a backslash before the characters that would end it. -/
def escape (name : List Char) : List Char :=
  name.flatMap fun char => if needsEscape char then ['\\', char] else [char]

/-- The text of an expression. -/
def render : TagExpression → String
  | .conj left right => s!"( {left.render} and {right.render} )"
  | .disj left right => s!"( {left.render} or {right.render} )"
  | .neg inside => s!"not ( {inside.render} )"
  | .tag name => String.ofList (escape name.toList)

end ScenarioRunner.TagExpression
