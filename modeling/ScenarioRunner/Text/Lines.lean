import ScenarioRunner.Text.Blank

/-!
# Lines of a text

Cutting a text into lines, and moving its lines to the left margin.
-/

namespace ScenarioRunner.Text

/-- The lines of a text.  A line break is a line feed, with or without a
carriage return before it; a last line without a line break counts if it is
not empty. -/
def lines : List Char → List (List Char)
  | [] => []
  | '\n' :: rest => [] :: lines rest
  | '\r' :: '\n' :: rest => [] :: lines rest
  | char :: rest =>
      match lines rest with
      | [] => [[char]]
      | line :: others => (char :: line) :: others

@[simp] theorem lines_nil : lines [] = [] := rfl

/-- The length of the longest common start of two texts. -/
def commonLength : List Char → List Char → Nat
  | first :: firsts, second :: seconds =>
      if first == second then commonLength firsts seconds + 1 else 0
  | _, _ => 0

/-- Cut a margin where a line departs from it.  A line that ends inside the
margin leaves it as it is. -/
def narrowMargin (margin line : List Char) : List Char :=
  let common := commonLength line margin
  if common < line.length then margin.take common else margin

/-- The blanks that all lines that are not blank start with. -/
def margin (lines : List (List Char)) : List Char :=
  match lines.dropWhile (·.all isBlank) with
  | [] => []
  | first :: others =>
      others.foldl narrowMargin (first.takeWhile isBlank)

/-- A line without the margin.  Nothing is left of a blank line. -/
def removeMargin (margin line : List Char) : List Char :=
  if line.all isBlank then [] else line.drop margin.length

/-- Remove the margin from all lines of a text. -/
def dedent (text : List Char) : List Char :=
  let lines := lines text
  let moved := lines.flatMap (removeMargin (margin lines) · ++ ['\n'])
  if text.getLast? == some '\n' then moved else moved.dropLast

@[simp] theorem dedent_nil : dedent [] = [] := rfl

end ScenarioRunner.Text
