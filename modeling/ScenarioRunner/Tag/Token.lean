import ScenarioRunner.Text.Blank
import ScenarioRunner.Text.Quoted

/-!
# Tokens of tag expressions

Words are separated by brackets and blanks.  A backslash makes a bracket, a
blank or another backslash a part of a word.  The words `and`, `or` and `not`
are operators, whether or not they were written with a backslash.
-/

namespace ScenarioRunner.TagExpression

open ScenarioRunner.Text

/-- A word, an operator or a bracket. -/
inductive Token where
  | word (name : String)
  | and
  | or
  | not
  | opening
  | closing
  deriving DecidableEq, Repr

namespace Token

/-- The token that a word stands for. -/
def ofWord (name : String) : Token :=
  if name = "and" then .and
  else if name = "or" then .or
  else if name = "not" then .not
  else .word name

/-- How error messages name a token. -/
def describe : Token → String
  | .word name => s!"Literal({quoted name})"
  | .and => "And"
  | .or => "Or"
  | .not => "Not"
  | .opening => "Open"
  | .closing => "Close"

end Token

/-- Why a text is no tag expression. -/
inductive SyntaxError where
  | illegalEscape (char : Char)
  | unfinishedEscape
  | empty
  | unmatchedClosing
  | unmatchedOpening
  | expectedOperator (found : Token)
  | expectedOperand (found : Token)
  | expectedOperandAtEnd
  deriving DecidableEq, Repr

namespace SyntaxError

/-- The text of an error. -/
def reason : SyntaxError → String
  | .illegalEscape char => s!"Illegal escape before \"{char}\"."
  | .unfinishedEscape => "Unfinished escape at the end."
  | .empty => "expression is empty."
  | .unmatchedClosing => "Unmatched )."
  | .unmatchedOpening => "Unmatched (."
  | .expectedOperator found => s!"Expected operator, found {found.describe}."
  | .expectedOperand found => s!"Expected operand, found {found.describe}."
  | .expectedOperandAtEnd => "Expected operand, found end of expression."

/-- The text of an error together with the expression it is about. -/
def message (error : SyntaxError) (expression : String) : String :=
  s!"Tag expression \"{expression}\" could not be parsed because of syntax " ++
    s!"error: {error.reason}"

end SyntaxError

/-- Whether a character has to be written after a backslash to be part of a
word. -/
def needsEscape (char : Char) : Bool :=
  char == '(' || char == ')' || char == '\\' || isBlank char

/-- The tokens in front of `later` once the word read so far, latest character
first, has ended. -/
def endWord (word : List Char) (later : List Token) : List Token :=
  match word with
  | [] => later
  | _ => Token.ofWord (String.ofList word.reverse) :: later

/-- Cut a text into tokens, with the word read so far. -/
def tokensFrom (word : List Char) :
    List Char → Except SyntaxError (List Token)
  | [] => .ok (endWord word [])
  | '\\' :: [] => .error .unfinishedEscape
  | '\\' :: char :: rest =>
      if needsEscape char then tokensFrom (char :: word) rest
      else .error (.illegalEscape char)
  | char :: rest =>
      if char == '(' then
        (tokensFrom [] rest).map fun later => endWord word (.opening :: later)
      else if char == ')' then
        (tokensFrom [] rest).map fun later => endWord word (.closing :: later)
      else if isBlank char then (tokensFrom [] rest).map (endWord word)
      else tokensFrom (char :: word) rest

/-- The tokens of a text. -/
def tokens (text : String) : Except SyntaxError (List Token) :=
  tokensFrom [] text.toList

end ScenarioRunner.TagExpression
