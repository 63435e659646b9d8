import ScenarioRunner.FeatureText.Place
import ScenarioRunner.Text.Blank

/-!
# Lines, gaps and keywords

A feature file is read line by line.  Between two lines that matter there may
be a gap: blank lines, indentation and comment lines, whose first character
after the indentation is `#`.  A keyword starts a line that matters.
-/

namespace ScenarioRunner.FeatureText

/-- The characters of indentation. -/
def isIndent (char : Char) : Bool :=
  char == ' ' || char == '\t'

/-- The number of characters of a line break at the front of a text. -/
def lineBreakLength? : List Char → Option Nat
  | '\n' :: _ => some 1
  | '\r' :: '\n' :: _ => some 2
  | _ => none

/-- The number of characters before the next line break. -/
def lineLength : List Char → Nat
  | [] => 0
  | '\n' :: _ => 0
  | '\r' :: '\n' :: _ => 0
  | _ :: rest => lineLength rest + 1

/-- Where in a gap a character stands. -/
inductive Gap where
  /-- Behind a line that matters, where no comment can start. -/
  | behindLine
  /-- In the indentation of a new line, where a comment can start. -/
  | newLine
  /-- In a comment. -/
  | comment
  deriving DecidableEq, Repr

/-- The number of characters that belong to the gap at the front of a text. -/
def gapLength : Gap → List Char → Nat
  | _, [] => 0
  | _, '\n' :: rest => gapLength .newLine rest + 1
  | _, '\r' :: '\n' :: rest => gapLength .newLine rest + 2
  | .comment, _ :: rest => gapLength .comment rest + 1
  | .newLine, char :: rest =>
      if isIndent char then gapLength .newLine rest + 1
      else if char == '#' then gapLength .comment rest + 1
      else 0
  | .behindLine, char :: rest =>
      if isIndent char then gapLength .behindLine rest + 1 else 0

/-- The number of characters of comment lines at the front of a new line,
with the gap that follows the first of them. -/
def commentsLength (text : List Char) : Nat :=
  if (text.dropWhile isIndent).head? = some '#' then gapLength .newLine text
  else 0

/-- Skip indentation. -/
def indent : Reader Unit := do
  let place ← Reader.here
  Reader.skip (place.rest.takeWhile isIndent).length

/-- Skip the comment lines in front. -/
def comments : Reader Unit := do
  let place ← Reader.here
  Reader.skip (commentsLength place.rest)

/-- Skip one line break and the comment lines behind it. -/
def lineBreak : Reader Unit := do
  let place ← Reader.here
  let length ← lineBreakLength? place.rest
  Reader.skip length
  comments

/-- Skip the end of a line and the gap behind it.  The end of the text ends a
line too. -/
def lineEnd : Reader Unit := do
  let place ← Reader.here
  let length := gapLength .behindLine place.rest
  guard (length != 0 || place.rest.isEmpty)
  Reader.skip length

/-- The characters up to the next line break, of which there is at least
one. -/
def restOfLine : Reader (List Char) := do
  let place ← Reader.here
  let length := lineLength place.rest
  guard (length != 0)
  Reader.take length

/-- The first of the given keywords that starts a text. -/
def keyword? (keywords : List String) (text : List Char) : Option String :=
  keywords.find? (·.toList.isPrefixOf text)

/-- Read one of the given keywords. -/
def keyword (keywords : List String) : Reader String := do
  let place ← Reader.here
  let found ← keyword? keywords place.rest
  Reader.skip found.length
  return found

@[simp] theorem lineLength_nil : lineLength [] = 0 := rfl

@[simp] theorem gapLength_nil (gap : Gap) : gapLength gap [] = 0 := by
  cases gap <;> rfl

end ScenarioRunner.FeatureText
