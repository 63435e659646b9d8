/-!
# Reading integers

A decimal integer is an optional sign and ASCII digits.  It is read from the
left and has to stay in the range that is asked for: the first character that
is no digit, or that takes the value out of the range, decides the error.
-/

namespace ScenarioRunner.Number

/-- Why a text is no integer of a range. -/
inductive IntegerError where
  | empty
  | invalidDigit
  | tooLarge
  | tooSmall
  deriving DecidableEq, Repr

/-- The text of an error. -/
def IntegerError.message : IntegerError → String
  | .empty => "cannot parse integer from empty string"
  | .invalidDigit => "invalid digit found in string"
  | .tooLarge => "number too large to fit in target type"
  | .tooSmall => "number too small to fit in target type"

/-- A range of integers that holds zero. -/
structure IntegerRange where
  lowest : Int
  highest : Int
  deriving DecidableEq, Repr

namespace IntegerRange

/-- The integers of so many bits with a sign. -/
def signed (bits : Nat) : IntegerRange :=
  let half : Int := (1 <<< (bits - 1) : Nat)
  ⟨-half, half - 1⟩

/-- The integers of so many bits without a sign. -/
def unsigned (bits : Nat) : IntegerRange :=
  ⟨0, ((1 <<< bits : Nat) : Int) - 1⟩

/-- Whether an integer lies in the range. -/
def contains (range : IntegerRange) (value : Int) : Bool :=
  range.lowest ≤ value && value ≤ range.highest

end IntegerRange

/-- The value of an ASCII digit. -/
def digitValue? (char : Char) : Option Nat :=
  if char.isDigit then some (char.toNat - '0'.toNat) else none

/-- Read digits after a value that they continue. -/
def readDigits (range : IntegerRange) (negative : Bool) :
    Int → List Char → Except IntegerError Int
  | value, [] => .ok value
  | value, char :: rest =>
      match digitValue? char with
      | none => .error .invalidDigit
      | some digit =>
          let next :=
            if negative then value * 10 - digit else value * 10 + digit
          if range.contains next then readDigits range negative next rest
          else .error (if negative then .tooSmall else .tooLarge)

/-- Read an integer of a range.  A minus is a sign only where the range has
negative integers. -/
def readInteger (range : IntegerRange) (text : String) :
    Except IntegerError Int :=
  match text.toList with
  | [] => .error .empty
  | '+' :: [] => .error .invalidDigit
  | '-' :: [] => .error .invalidDigit
  | '+' :: rest => readDigits range false 0 rest
  | '-' :: rest =>
      if range.lowest < 0 then readDigits range true 0 rest
      else .error .invalidDigit
  | chars => readDigits range false 0 chars

end ScenarioRunner.Number
