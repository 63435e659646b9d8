/-!
# Segments of expressions

An expression for step texts is made of literal text, blanks, optional text in
round brackets, alternatives between slashes and placeholders in braces.
Literal text is kept as it was written, with its backslashes; `unescape` gives
the text that it stands for.
-/

namespace ScenarioRunner.Expression

/-- A part of one alternative. -/
inductive Alternative where
  | text (written : List Char)
  /-- Text that may be left out. -/
  | optional (written : List Char)
  deriving DecidableEq, Repr

/-- A part of an expression. -/
inductive Segment where
  | text (written : List Char)
  | blanks (written : List Char)
  /-- Text that may be left out. -/
  | optional (written : List Char)
  /-- Alternatives, the earlier ones preferred. -/
  | alternation (alternatives : List (List Alternative))
  /-- A placeholder for a parameter type. -/
  | parameter (name : String)
  deriving DecidableEq, Repr

/-- The text that written text stands for. -/
def unescape : List Char → List Char
  | [] => []
  | '\\' :: [] => []
  | '\\' :: char :: rest => char :: unescape rest
  | char :: rest => char :: unescape rest

namespace Alternative

/-- An alternative as it was written. -/
def written : Alternative → List Char
  | .text written => written
  | .optional written => '(' :: written ++ [')']

/-- Whether an alternative may be left out. -/
def isOptional : Alternative → Bool
  | .text _ => false
  | .optional _ => true

end Alternative

namespace Segment

/-- The name of a placeholder. -/
def parameter? : Segment → Option String
  | .parameter name => some name
  | _ => none

end Segment

/-- Why a text is no expression; each cause has the text it is about. -/
inductive SyntaxError where
  | nestedParameter (fragment : List Char)
  | optionalInParameter (fragment : List Char)
  | unfinishedParameter
  | nestedOptional (fragment : List Char)
  | parameterInOptional (fragment : List Char)
  | alternationInOptional
  | emptyOptional
  | unfinishedOptional
  | emptyAlternation
  | onlyOptionalInAlternation (fragment : List Char)
  | reservedCharacter (char : Char)
  | escapedOrdinary (fragment : List Char)
  | escapedEnd
  deriving DecidableEq, Repr

namespace SyntaxError

/-- The text that an error is about. -/
def fragment : SyntaxError → List Char
  | .nestedParameter fragment | .optionalInParameter fragment
  | .nestedOptional fragment | .parameterInOptional fragment
  | .onlyOptionalInAlternation fragment
  | .escapedOrdinary fragment => fragment
  | .unfinishedParameter => ['\x7B']
  | .alternationInOptional | .emptyAlternation => ['/']
  | .emptyOptional => ['(', ')']
  | .unfinishedOptional => ['(']
  | .reservedCharacter char => [char]
  | .escapedEnd => ['\\']

/-- What is wrong with the text, and what to do about it. -/
def explanation : SyntaxError → String
  | .nestedParameter _ =>
      "A parameter may not contain an other parameter.\n" ++
      "If you did not mean to use an optional type you can use '\\\x7B' to " ++
      "escape the '\x7B'. For more complicated expressions consider using a " ++
      "regular expression instead."
  | .optionalInParameter _ =>
      "A parameter may not contain an optional.\n" ++
      "If you did not mean to use an parameter type you can use '\\(' to " ++
      "escape the '('."
  | .unfinishedParameter =>
      "The '\x7B' does not have a matching '\x7D'.\n" ++
      "If you did not intend to use a parameter you can use '\\\x7B' to " ++
      "escape the '\x7B'."
  | .nestedOptional _ =>
      "An optional may not contain an other optional.\n" ++
      "If you did not mean to use an optional type you can use '\\(' to " ++
      "escape the '('. For more complicated expressions consider using a " ++
      "regular expression instead."
  | .parameterInOptional _ =>
      "An optional may not contain a parameter.\n" ++
      "If you did not mean to use an parameter type you can use '\\\x7B' to " ++
      "escape the '\x7B'."
  | .alternationInOptional =>
      "An alternation can not be used inside an optional.\n" ++
      "You can use '\\/' to escape the '/'."
  | .emptyOptional =>
      "An optional must contain some text.\n" ++
      "If you did not mean to use an optional you can use '\\(' to escape " ++
      "the '('."
  | .unfinishedOptional =>
      "The '(' does not have a matching ')'.\n" ++
      "If you did not intend to use an optional you can use '\\(' to escape " ++
      "the '('."
  | .emptyAlternation =>
      "An alternation can not be empty.\n" ++
      "If you did not mean to use an alternative you can use '\\/' to " ++
      "escape the '/'."
  | .onlyOptionalInAlternation _ =>
      "An alternation may not exclusively contain optionals.\n" ++
      "If you did not mean to use an optional you can use '\\(' to escape " ++
      "the '('."
  | .reservedCharacter _ =>
      "Unescaped reserved character.\nYou can use an '\\' to escape it."
  | .escapedOrdinary _ =>
      "Only the characters '\x7B', '\x7D', '(', ')', '\\', '/' and " ++
      "whitespace can be escaped.\n" ++
      "If you did mean to use an '\\' you can use '\\\\' to escape it."
  | .escapedEnd =>
      "The end of line can not be escaped.\n" ++
      "You can use '\\' to escape the the ''."

/-- The text of an error. -/
def reason (error : SyntaxError) : String :=
  String.ofList error.fragment ++ "\n" ++ error.explanation

end SyntaxError

end ScenarioRunner.Expression
