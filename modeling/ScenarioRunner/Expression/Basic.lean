import ScenarioRunner.Expression.Expansion

/-!
# Expressions that match step texts

A step text is matched either by an expression with placeholders, compiled
against the parameter types that it names, or by a regular expression as it
is.  A match gives one capture for each placeholder or for each group.
-/

namespace ScenarioRunner

/-- What a placeholder or a group captured. -/
structure Capture where
  /-- The text, absent for a group that took no part in the match. -/
  text : Option String
  /-- The type that turns the text into a value; a group has none. -/
  type : Option ParameterType

namespace Capture

/-- The value of a capture, absent if there is no text. -/
def value (capture : Capture) : Except String (Option Value) :=
  match capture.text, capture.type with
  | none, _ => .ok none
  | some text, some type => (type.transform text).map some
  | some text, none => .ok (some (.text text))

end Capture

namespace Expression

/-- A placeholder: the groups that may hold its text, and its type. -/
structure Placeholder where
  groups : List Nat
  type : ParameterType

/-- An expression compiled against the parameter types it names. -/
structure Template where
  source : String
  root : Regex.Node
  placeholders : List Placeholder

/-- Why an expression cannot be compiled. -/
inductive CompileError where
  | malformed (reason : SyntaxError)
  | undefinedParameter (name : String)
  | invalidPattern (reason : Regex.SyntaxError)
  deriving DecidableEq, Repr

/-- The text of an error about an expression; a pattern that is no regular
expression is reported by the expression only. -/
def CompileError.message (error : CompileError) (source : String) : String :=
  match error with
  | .malformed reason =>
      s!"Invalid Cucumber Expression `{source}`: {reason.reason}"
  | .undefinedParameter name =>
      s!"Undefined parameter type `\x7B{name}\x7D` in expression `{source}`"
  | .invalidPattern _ => s!"Invalid regular expression `{source}`"

/-- The first name that comes a second time. -/
def firstRepeated? : List String → Option String
  | [] => none
  | name :: later =>
      if later.contains name then some name else firstRepeated? later

/-- The types of names in order, or the first name without a type. -/
def resolveTypes (registry : ParameterRegistry) :
    List String → Except CompileError (List ParameterType)
  | [] => .ok []
  | name :: later =>
      match registry.lookup? name with
      | none => .error (.undefinedParameter name)
      | some type => do return type :: (← resolveTypes registry later)

namespace Template

/-- Compile an expression. -/
def compile (registry : ParameterRegistry) (source : String) :
    Except CompileError Template :=
  match parse source with
  | .error reason => .error (.malformed reason)
  | .ok segments =>
      match resolveTypes registry (segments.filterMap Segment.parameter?) with
      | .error error => .error error
      | .ok types =>
          let root := expand registry.lookup? segments
          match firstRepeated? (root.groups.filterMap (·.2)) with
          | some name => .error (.invalidPattern (.duplicateGroupName name))
          | none =>
              let groups := placeholderGroups root types.length
              .ok ⟨source, root, groups.zipWith Placeholder.mk types⟩

/-- The captures of the placeholders if the text matches. -/
def match? (template : Template) (text : String) : Option (List Capture) :=
  let chars := text.toList
  (template.root.findFrom? [] chars).map fun found =>
    template.placeholders.map fun placeholder =>
      let span := placeholder.groups.findSome? found.group?
      ⟨span.map fun span => String.ofList (span.of chars), some placeholder.type⟩

end Template

end Expression

/-- What a step definition matches step texts with. -/
inductive Expression where
  | template (compiled : Expression.Template)
  | regular (regex : Regex)

namespace Expression

/-- The captures if a text matches. -/
def match? (expression : Expression) (text : String) : Option (List Capture) :=
  match expression with
  | .template compiled => compiled.match? text
  | .regular regex =>
      (regex.captures? text).map (·.map fun text => ⟨text, none⟩)

/-- Whether a text matches. -/
def isMatch (expression : Expression) (text : String) : Bool :=
  (expression.match? text).isSome

/-- The source, without slashes around a regular expression. -/
def source : Expression → String
  | .template compiled => compiled.source
  | .regular regex => regex.source

/-- The source, with slashes around a regular expression. -/
def canonical : Expression → String
  | .template compiled => compiled.source
  | .regular regex => s!"/{regex.source}/"

end Expression

end ScenarioRunner
