import ScenarioRunner.Tag.Expression
import ScenarioRunner.Tag.Token

/-!
# Reading tag expressions

`not` binds closer than `and`, and `and` closer than `or`; operators of one
kind group to the left.  The tokens are read once from left to right.  What
has been read and waits for its right side is kept per pair of brackets in a
`Pending`, from which `Pending.conjunct` and `Pending.disjunct` build the
expression when an operand arrives.
-/

namespace ScenarioRunner.TagExpression

/-- What waits for the next operand inside one pair of brackets. -/
structure Pending where
  /-- The left side of an `or`. -/
  left : Option TagExpression := none
  /-- The left side of an `and`. -/
  middle : Option TagExpression := none
  /-- The number of `not`s in front. -/
  negations : Nat := 0
  deriving DecidableEq, Repr

/-- An expression with a number of `not`s in front of it. -/
def negate : Nat → TagExpression → TagExpression
  | 0, inside => inside
  | count + 1, inside => .neg (negate count inside)

namespace Pending

/-- An operand with what waited for it up to the last `or`. -/
def conjunct (pending : Pending) (operand : TagExpression) : TagExpression :=
  let operand := negate pending.negations operand
  match pending.middle with
  | some left => .conj left operand
  | none => operand

/-- A conjunction with all that waited for it. -/
def disjunct (pending : Pending) (conjunct : TagExpression) : TagExpression :=
  match pending.left with
  | some left => .disj left conjunct
  | none => conjunct

end Pending

/--
Read tokens inside the brackets that are open.  `value` is the conjunction
that has just been completed, or `none` where an operand has to follow.
-/
def parseTokens (enclosing : List Pending) (pending : Pending) :
    Option TagExpression → List Token → Except SyntaxError TagExpression
  | none, [] => .error .expectedOperandAtEnd
  | none, .not :: rest =>
      parseTokens enclosing
        { pending with negations := pending.negations + 1 } none rest
  | none, .opening :: rest => parseTokens (pending :: enclosing) {} none rest
  | none, .word name :: rest =>
      parseTokens enclosing pending (some (pending.conjunct (.tag name))) rest
  | none, token :: _ => .error (.expectedOperand token)
  | some value, [] =>
      match enclosing with
      | [] => .ok (pending.disjunct value)
      | _ :: _ => .error .unmatchedOpening
  | some value, .and :: rest =>
      parseTokens enclosing { left := pending.left, middle := some value } none
        rest
  | some value, .or :: rest =>
      parseTokens enclosing { left := some (pending.disjunct value) } none rest
  | some value, .closing :: rest =>
      match enclosing with
      | [] => .error .unmatchedClosing
      | outer :: enclosing =>
          parseTokens enclosing outer
            (some (outer.conjunct (pending.disjunct value))) rest
  | some _, token :: _ =>
      match enclosing with
      | [] => .error (.expectedOperator token)
      | _ :: _ => .error .unmatchedOpening

/-- Read a tag expression. -/
def parse (text : String) : Except SyntaxError TagExpression :=
  match tokens text with
  | .error error => .error error
  | .ok [] => .error .empty
  | .ok found => parseTokens [] {} none found

end ScenarioRunner.TagExpression
