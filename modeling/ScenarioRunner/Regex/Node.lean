import ScenarioRunner.Regex.CharClass

/-!
# Syntax trees of regular expressions

A pattern is a `Node` over characters, places in the text and capture groups.
`Node.groups` lists its capture groups from left to right, and `Node.repeated`
builds a repetition in the simplest form with the same matches: exactly one
copy is the copy itself, and no copy at all is the empty pattern, so the
groups of a copy that is never tried do not count as groups of the pattern.
-/

namespace ScenarioRunner.Regex

/-- A condition on the place between two characters. -/
inductive Anchor where
  /-- The start of the text. -/
  | textStart
  /-- The end of the text. -/
  | textEnd
  /-- The start of a line. -/
  | lineStart
  /-- The end of a line. -/
  | lineEnd
  /-- The start of a line, where `\r\n` and a lone `\r` also end lines. -/
  | lineStartAnyBreak
  /-- The end of a line, where `\r\n` and a lone `\r` also end lines. -/
  | lineEndAnyBreak
  /-- A word character on one side only, for a given idea of words. -/
  | wordBoundary (letters : CharClass)
  /-- A word character on both sides or on neither. -/
  | notWordBoundary (letters : CharClass)
  /-- A word character on the right only. -/
  | wordStart (letters : CharClass)
  /-- A word character on the left only. -/
  | wordEnd (letters : CharClass)
  /-- No word character on the left. -/
  | wordStartHalf (letters : CharClass)
  /-- No word character on the right. -/
  | wordEndHalf (letters : CharClass)
  deriving DecidableEq, Repr

/-- A regular expression. -/
inductive Node where
  /-- The empty text. -/
  | empty
  /-- One character of a class. -/
  | oneOf (allowed : CharClass)
  /-- The empty text at a place that meets a condition. -/
  | anchor (condition : Anchor)
  /-- One after the other. -/
  | seq (first second : Node)
  /-- The first if it leads to a match, else the second. -/
  | alt (first second : Node)
  /-- Copies of a body, as many as possible or as few as possible. -/
  | repeat (body : Node) (atLeast : Nat) (atMost : Option Nat) (greedy : Bool)
  /-- A body whose matched text is remembered. -/
  | group (index : Nat) (name : Option String) (body : Node)
  deriving DecidableEq, Repr

namespace Node

/-- Several patterns one after the other. -/
def sequence : List Node → Node
  | [] => .empty
  | [only] => only
  | first :: later => .seq first (sequence later)

/-- Several alternatives, the earlier ones preferred. -/
def choice : List Node → Node
  | [] => .empty
  | [only] => only
  | first :: later => .alt first (choice later)

/-- One given character. -/
def literal (char : Char) : Node := .oneOf (.single char)

/-- One given text. -/
def text (chars : List Char) : Node := sequence (chars.map literal)

/-- The length of the longest match in characters, if there is a bound. -/
def maxLength? : Node → Option Nat
  | .empty => some 0
  | .oneOf _ => some 1
  | .anchor _ => some 0
  | .seq first second => do
      let left ← first.maxLength?
      let right ← second.maxLength?
      return left + right
  | .alt first second => do
      let left ← first.maxLength?
      let right ← second.maxLength?
      return max left right
  | .repeat body _ atMost _ => do
      let copies ← atMost
      let length ← body.maxLength?
      return length * copies
  | .group _ _ body => body.maxLength?

/--
A repetition in its simplest form.  Copies that can only match the empty text
are needed once at most.
-/
def repeated (body : Node) (atLeast : Nat) (atMost : Option Nat)
    (greedy : Bool) : Node :=
  let bounds :=
    if body.maxLength? = some 0 then
      (min atLeast 1, some (min (atMost.getD 1) 1))
    else (atLeast, atMost)
  if bounds = (0, some 0) then .empty
  else if bounds = (1, some 1) then body
  else .repeat body bounds.1 bounds.2 greedy

/-- The capture groups of a pattern from left to right. -/
def groups : Node → List (Nat × Option String)
  | .empty | .oneOf _ | .anchor _ => []
  | .seq first second | .alt first second => first.groups ++ second.groups
  | .repeat body _ _ _ => body.groups
  | .group index name body => (index, name) :: body.groups

@[simp]
theorem groups_seq (first second : Node) :
    (seq first second).groups = first.groups ++ second.groups := rfl

@[simp]
theorem groups_alt (first second : Node) :
    (alt first second).groups = first.groups ++ second.groups := rfl

@[simp]
theorem groups_group (index : Nat) (name : Option String) (body : Node) :
    (group index name body).groups = (index, name) :: body.groups := rfl

/-- A pattern with all its group numbers raised by an offset. -/
def shift (offset : Nat) : Node → Node
  | .empty => .empty
  | .oneOf allowed => .oneOf allowed
  | .anchor condition => .anchor condition
  | .seq first second => .seq (first.shift offset) (second.shift offset)
  | .alt first second => .alt (first.shift offset) (second.shift offset)
  | .repeat body atLeast atMost greedy =>
      .repeat (body.shift offset) atLeast atMost greedy
  | .group index name body => .group (index + offset) name (body.shift offset)

/-- Shifting raises the numbers of the groups and keeps their names. -/
theorem groups_shift (offset : Nat) (node : Node) :
    (node.shift offset).groups =
      node.groups.map fun (index, name) => (index + offset, name) := by
  induction node with
  | empty | oneOf | anchor => rfl
  | seq first second firstIH secondIH
  | alt first second firstIH secondIH => simp [shift, firstIH, secondIH]
  | «repeat» body _ _ _ ih => simpa [shift, groups] using ih
  | group index name body ih => simp [shift, ih]

end Node

end ScenarioRunner.Regex
