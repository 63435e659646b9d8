/-!
# Tag expressions

A tag expression selects sets of tags.  `TagExpression.eval` is the Boolean
reading of the expression, and an absent expression selects every set.
-/

namespace ScenarioRunner

/-- A Boolean expression over tags. -/
inductive TagExpression where
  /-- Both sides hold. -/
  | conj (left right : TagExpression)
  /-- One side holds, or both. -/
  | disj (left right : TagExpression)
  /-- The inside does not hold. -/
  | neg (inside : TagExpression)
  /-- The tag is in the set; its name includes the leading `@`. -/
  | tag (name : String)
  deriving DecidableEq, Repr, Inhabited

namespace TagExpression

/-- Whether a set of tags satisfies an expression. -/
def eval (tags : List String) : TagExpression → Bool
  | .conj left right => left.eval tags && right.eval tags
  | .disj left right => left.eval tags || right.eval tags
  | .neg inside => !inside.eval tags
  | .tag name => tags.contains name

@[simp]
theorem eval_conj (tags : List String) (left right : TagExpression) :
    (conj left right).eval tags = (left.eval tags && right.eval tags) := rfl

@[simp]
theorem eval_disj (tags : List String) (left right : TagExpression) :
    (disj left right).eval tags = (left.eval tags || right.eval tags) := rfl

@[simp]
theorem eval_neg (tags : List String) (inside : TagExpression) :
    (neg inside).eval tags = !inside.eval tags := rfl

@[simp]
theorem eval_tag (tags : List String) (name : String) :
    (tag name).eval tags = tags.contains name := rfl

/-- Whether a set of tags satisfies an expression that may be absent. -/
def selects (expression : Option TagExpression) (tags : List String) : Bool :=
  expression.all fun present => present.eval tags

@[simp]
theorem selects_none (tags : List String) : selects none tags = true := rfl

@[simp]
theorem selects_some (expression : TagExpression) (tags : List String) :
    selects (some expression) tags = expression.eval tags := rfl

/-- The tests singled out by `@only` or `@focus`. -/
def focus : TagExpression := .disj (.tag "@only") (.tag "@focus")

end TagExpression

end ScenarioRunner
