import ScenarioRunner.Number.Integer

/-!
# Reading floating-point numbers

A floating-point number is kept as the 64 bits of its binary form: a sign, 11
bits of exponent and 52 bits of fraction.  `nearest` gives the bits nearest to
a quotient of naturals, halves going to the even neighbour, and `read` gives
the number that a decimal text denotes.
-/

namespace ScenarioRunner.Number.Binary64

/-- The bits of infinity. -/
def infinity : Nat := 0x7FF0000000000000

/-- The bits of a value that is no number. -/
def nan : Nat := 0x7FF8000000000000

/-- The bit of the sign. -/
def signBit : Nat := 0x8000000000000000

/-- The quotient rounded to the nearest natural, a half to the even one. -/
def roundDiv (numerator denominator : Nat) : Nat :=
  let quotient := numerator / denominator
  let remainder := numerator % denominator
  if 2 * remainder < denominator then quotient
  else if denominator < 2 * remainder then quotient + 1
  else if quotient % 2 = 0 then quotient
  else quotient + 1

/-- A quotient divided by a power of two and rounded. -/
def roundScaled (numerator denominator : Nat) (exponent : Int) : Nat :=
  if 0 ≤ exponent then
    roundDiv numerator (denominator <<< exponent.toNat)
  else roundDiv (numerator <<< (-exponent).toNat) denominator

/--
The exponent of two that leaves 53 bits before the point of a quotient, but
not less than the least exponent there is.
-/
def exponentOf (numerator denominator : Nat) : Int :=
  let estimate : Int := (numerator.log2 : Int) - denominator.log2 - 52
  let scaledBelow :=
    if 0 ≤ estimate then
      numerator < denominator <<< (estimate.toNat + 52)
    else numerator <<< (-estimate).toNat < denominator <<< 52
  max (if scaledBelow then estimate - 1 else estimate) (-1074)

/-- The bits nearest to a positive quotient. -/
def nearest (numerator denominator : Nat) : Nat :=
  if numerator = 0 then 0
  else
    let exponent := exponentOf numerator denominator
    let significand := roundScaled numerator denominator exponent
    min infinity (((exponent + 1074).toNat <<< 52) + significand)

/-- The bits nearest to `digits` times a power of ten. -/
def ofDecimal (digits : Nat) (exponent : Int) : Nat :=
  let size : Int := (Nat.toDigits 10 digits).length
  if digits = 0 then 0
  else if size + exponent < -400 then 0
  else if 400 < size + exponent then infinity
  else if 0 ≤ exponent then nearest (digits * Nat.pow 10 exponent.toNat) 1
  else nearest digits (Nat.pow 10 (-exponent).toNat)

/-- Why a text is no floating-point number. -/
inductive ReadError where
  | empty
  | invalid
  deriving DecidableEq, Repr

/-- The text of an error. -/
def ReadError.message : ReadError → String
  | .empty => "cannot parse float from empty string"
  | .invalid => "invalid float literal"

/-- The number that decimal digits denote. -/
def digitsValue (digits : List Char) : Nat :=
  digits.foldl (fun value digit => value * 10 + (digit.toNat - '0'.toNat)) 0

/-- Read an exponent, which has a letter, an optional sign and digits. -/
def readExponent : List Char → Option Int
  | [] => some 0
  | letter :: rest =>
      if letter != 'e' && letter != 'E' then none
      else
        let (negative, digits) :=
          match rest with
          | '-' :: digits => (true, digits)
          | '+' :: digits => (false, digits)
          | digits => (false, digits)
        if digits.isEmpty || !digits.all Char.isDigit then none
        else if negative then some (-(digitsValue digits))
        else some (digitsValue digits)

/-- Read digits, a point and an exponent. -/
def readUnsigned (text : List Char) : Option Nat := do
  let whole := text.takeWhile Char.isDigit
  let rest := text.dropWhile Char.isDigit
  let (fraction, rest) :=
    match rest with
    | '.' :: rest => (rest.takeWhile Char.isDigit, rest.dropWhile Char.isDigit)
    | rest => ([], rest)
  if whole.isEmpty && fraction.isEmpty then none
  let exponent ← readExponent rest
  return ofDecimal (digitsValue (whole ++ fraction)) (exponent - fraction.length)

/-- Read a number without a sign, or one of the words for infinity and for a
value that is no number. -/
def readMagnitude (text : List Char) : Option Nat :=
  match String.ofList (text.map Char.toLower) with
  | "inf" | "infinity" => some infinity
  | "nan" => some nan
  | _ => readUnsigned text

/-- Read a floating-point number. -/
def read (text : String) : Except ReadError Nat :=
  let found :=
    match text.toList with
    | '-' :: rest => (readMagnitude rest).map (· + signBit)
    | '+' :: rest => readMagnitude rest
    | chars => readMagnitude chars
  match text.isEmpty, found with
  | true, _ => .error .empty
  | false, none => .error .invalid
  | false, some bits => .ok bits

/-- Whether bits stand for a value that is no number. -/
def isNaN (bits : Nat) : Bool :=
  infinity < bits % signBit

end ScenarioRunner.Number.Binary64
