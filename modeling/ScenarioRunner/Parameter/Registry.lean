import ScenarioRunner.Parameter.Value
import ScenarioRunner.Regex.Basic

/-!
# Parameter types

A parameter type gives a name to a pattern and says what is made of the text
that it matches.  The registry starts with nine built-in types and keeps the
order of registration; names in it are unique and every pattern of it is a
regular expression.
-/

namespace ScenarioRunner

/-- A parameter type, with its pattern compiled. -/
structure ParameterType where
  name : String
  pattern : Regex
  transform : Transformer
  /-- Whether suggestions use the type. -/
  suggested : Bool

namespace ParameterType

/-- The pattern as it was written. -/
def regexp (type : ParameterType) : String := type.pattern.source

end ParameterType

/-- A parameter type that is proposed to the registry. -/
structure ParameterDefinition where
  name : String
  regexp : String
  transform : Transformer := Transformer.identity
  suggested : Bool := true

namespace ParameterType

/-- Why a parameter type is not accepted. -/
inductive DefinitionError where
  | illegalName (name : String)
  | duplicate (name : String)
  | invalidPattern (name : String) (reason : Regex.SyntaxError)
  deriving DecidableEq, Repr

/-- The text of an error; an invalid pattern is reported by its name only. -/
def DefinitionError.message : DefinitionError → String
  | .illegalName name =>
      s!"Illegal character in parameter name `{name}`. Parameter names may " ++
        "not contain '\x7B', '\x7D', '(', ')', '\\' or '/'"
  | .duplicate name =>
      s!"There is already a parameter type with name `{name}`"
  | .invalidPattern name _ =>
      s!"Invalid regular expression of parameter type `{name}`"

/-- Whether a character may not stand in the name of a parameter type. -/
def isReserved (char : Char) : Bool :=
  "\x7B\x7D()\\/".toList.contains char

/-- The type that a definition with a pattern of its own gives. -/
def ofDefinition (definition : ParameterDefinition) : ParameterType where
  name := definition.name
  pattern := .ofSource definition.regexp
  transform := definition.transform
  suggested := definition.suggested

/-- The pattern of integers. -/
def integerPattern : String := "-?\\d+|\\d+"

/-- The pattern of numbers with a fraction or an exponent. -/
def floatPattern : String := "[-+]?(?:\\d+\\.?\\d*|\\.\\d+)(?:[eE][-+]?\\d+)?"

/-- The pattern of one word. -/
def wordPattern : String := "[^\\s]+"

/-- The pattern of quoted text. -/
def quotedPattern : String :=
  "\"(?:[^\"\\\\]|\\\\.)*\"|'(?:[^'\\\\]|\\\\.)*'"

/-- The pattern of any text. -/
def anyPattern : String := ".*"

/-- The built-in types, in order. -/
def builtin : List ParameterType :=
  let long := Transformer.integer (.signed 64) .long
  [ ofDefinition ⟨"int", integerPattern, long, true⟩,
    ofDefinition ⟨"float", floatPattern, .float, true⟩,
    ofDefinition ⟨"word", wordPattern, .identity, false⟩,
    ofDefinition ⟨"string", quotedPattern, .quotedText, true⟩,
    ofDefinition ⟨"", anyPattern, .identity, false⟩,
    ofDefinition ⟨"double", floatPattern, .float, false⟩,
    ofDefinition ⟨"long", integerPattern, long, false⟩,
    ofDefinition
      ⟨"short", integerPattern, .integer (.signed 16) .short, false⟩,
    ofDefinition ⟨"byte", integerPattern, .integer (.signed 8) .byte, false⟩ ]

end ParameterType

/-- The parameter types that expressions may name. -/
structure ParameterRegistry where
  types : List ParameterType := ParameterType.builtin

namespace ParameterRegistry

/-- The type of a name. -/
def lookup? (registry : ParameterRegistry) (name : String) :
    Option ParameterType :=
  registry.types.find? fun type => type.name == name

/-- The first type with a pattern. -/
def lookupByRegexp? (registry : ParameterRegistry) (regexp : String) :
    Option ParameterType :=
  registry.types.find? fun type => type.regexp == regexp

/-- The types that suggestions use, in order of registration. -/
def suggestedTypes (registry : ParameterRegistry) : List ParameterType :=
  registry.types.filter (·.suggested)

/-- The registry with one more type. -/
def define (registry : ParameterRegistry) (definition : ParameterDefinition) :
    Except ParameterType.DefinitionError ParameterRegistry :=
  if definition.name.toList.any ParameterType.isReserved then
    .error (.illegalName definition.name)
  else if (registry.lookup? definition.name).isSome then
    .error (.duplicate definition.name)
  else
    match Regex.compile definition.regexp with
    | .error reason => .error (.invalidPattern definition.name reason)
    | .ok pattern =>
        .ok
          ⟨registry.types ++
            [⟨definition.name, pattern, definition.transform,
              definition.suggested⟩]⟩

end ParameterRegistry

end ScenarioRunner
