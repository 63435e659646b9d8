import ScenarioRunner.Expression.Segment

/-!
# Reading expressions

An expression is read from the left.  At every place alternatives are tried
first, then optional text, a placeholder, literal text and blanks.  A reader
that answers `none` does not apply at the place; an error ends the reading.
-/

namespace ScenarioRunner.Expression

/-- The characters that a backslash may stand before. -/
def isReserved (char : Char) : Bool :=
  "\x7B\x7D()\\/ ".toList.contains char

/-- Whether a character may stand in the name of a placeholder. -/
def isNameChar (char : Char) : Bool :=
  !"\x7B\x7D(\\/".toList.contains char

/-- Whether a character may stand in optional text. -/
def isOptionalChar (char : Char) : Bool :=
  !"()\x7B\\/".toList.contains char

/-- Whether a character may stand in literal text or in an alternative. -/
def isTextChar (char : Char) : Bool :=
  !" (\x7B\\/".toList.contains char

/-- What is wrong with written text that ends in a lone backslash: it is
reported at the start of the text. -/
def trailingEscape (chars : List Char) : SyntaxError :=
  match chars with
  | first :: second :: _ => .escapedOrdinary [first, second]
  | _ => .escapedEnd

/-- The longest text of allowed and escaped characters at the start of
`chars`, which is a part of the text from `start` on, and the rest. -/
def takeWrittenFrom (start : List Char) (allowed : Char → Bool) :
    List Char → Except SyntaxError (List Char × List Char)
  | [] => .ok ([], [])
  | '\\' :: [] => .error (trailingEscape start)
  | '\\' :: char :: rest =>
      if isReserved char then
        (takeWrittenFrom start allowed rest).map fun (taken, rest) =>
          ('\\' :: char :: taken, rest)
      else .error (.escapedOrdinary ['\\', char])
  | char :: rest =>
      if allowed char then
        (takeWrittenFrom start allowed rest).map fun (taken, rest) =>
          (char :: taken, rest)
      else .ok ([], char :: rest)

/-- The longest written text of allowed and escaped characters, and the
rest. -/
def takeWritten (allowed : Char → Bool) (chars : List Char) :
    Except SyntaxError (List Char × List Char) :=
  takeWrittenFrom chars allowed chars

/-- A name and a closing brace, from after an opening brace. -/
def closedParameter? (chars : List Char) : Option (List Char × List Char) :=
  match takeWritten isNameChar chars with
  | .ok (name, '\x7D' :: rest) => some (name, rest)
  | _ => none

/-- Some text and a closing bracket, from after an opening bracket. -/
def closedOptional? (chars : List Char) : Option (List Char × List Char) :=
  match takeWritten isOptionalChar chars with
  | .ok (first :: text, ')' :: rest) => some (first :: text, rest)
  | _ => none

/-- What is wrong where a placeholder should end. -/
def parameterError : List Char → SyntaxError
  | [] => .unfinishedParameter
  | '\x7B' :: inside =>
      match closedParameter? inside with
      | some (name, rest) =>
          match takeWritten isNameChar rest with
          | .ok (_, '\x7D' :: _) => .nestedParameter ('\x7B' :: name ++ ['\x7D'])
          | _ => .reservedCharacter '\x7B'
      | none => .reservedCharacter '\x7B'
  | '(' :: inside =>
      match closedOptional? inside with
      | some (text, _) => .optionalInParameter ('(' :: text ++ [')'])
      | none => .reservedCharacter '('
  | char :: _ => .reservedCharacter char

/-- What is wrong where optional text should end. -/
def optionalError : List Char → SyntaxError
  | [] => .unfinishedOptional
  | '(' :: inside =>
      match closedOptional? inside with
      | some (text, rest) =>
          match takeWritten isOptionalChar rest with
          | .ok (_, ')' :: _) => .nestedOptional ('(' :: text ++ [')'])
          | _ => .reservedCharacter '('
      | none => .reservedCharacter '('
  | '\x7B' :: inside =>
      match closedParameter? inside with
      | some (name, _) => .parameterInOptional ('\x7B' :: name ++ ['\x7D'])
      | none => .reservedCharacter '\x7B'
  | '/' :: _ => .alternationInOptional
  | char :: _ => .reservedCharacter char

/-- Read a placeholder from after its opening brace. -/
def readParameter (chars : List Char) :
    Except SyntaxError (List Char × List Char) := do
  let (name, rest) ← takeWritten isNameChar chars
  match rest with
  | '\x7D' :: rest => return (name, rest)
  | rest => throw (parameterError rest)

/-- Read optional text from after its opening bracket. -/
def readOptional (chars : List Char) :
    Except SyntaxError (List Char × List Char) := do
  let (text, rest) ← takeWritten isOptionalChar chars
  match rest with
  | ')' :: rest => if text.isEmpty then throw .emptyOptional else return (text, rest)
  | rest => throw (optionalError rest)

/-- The parts of one alternative; `fuel` bounds their number. -/
def readAlternative :
    Nat → List Char → Except SyntaxError (List Alternative × List Char)
  | 0, chars => .ok ([], chars)
  | fuel + 1, chars =>
      match chars with
      | '(' :: inside => do
          let (text, rest) ← readOptional inside
          let (later, rest) ← readAlternative fuel rest
          return (.optional text :: later, rest)
      | chars => do
          let (text, rest) ← takeWritten isTextChar chars
          if text.isEmpty then return ([], chars)
          let (later, rest) ← readAlternative fuel rest
          return (.text text :: later, rest)

/-- Alternatives that follow slashes; `fuel` bounds their number. -/
def readAlternatives :
    Nat → List Char → Except SyntaxError (List (List Alternative) × List Char)
  | fuel + 1, '/' :: rest => do
      let (parts, after) ← readAlternative rest.length rest
      if parts.isEmpty then throw .emptyAlternation
      let (later, after) ← readAlternatives fuel after
      return (parts :: later, after)
  | _, chars => .ok ([], chars)

/-- The alternatives as they were written, between slashes. -/
def writtenAlternatives (alternatives : List (List Alternative)) : List Char :=
  ['/'].intercalate (alternatives.map (·.flatMap Alternative.written))

/-- Read alternatives, of which there have to be two. -/
def readAlternation (chars : List Char) :
    Except SyntaxError (Option (Segment × List Char)) := do
  let (first, rest) ← readAlternative chars.length chars
  if first.isEmpty then
    if chars.head? == some '/' then throw .emptyAlternation
    return none
  let (later, rest) ← readAlternatives rest.length rest
  if later.isEmpty then return none
  let alternatives := first :: later
  if alternatives.any fun parts => parts.all Alternative.isOptional then
    throw (.onlyOptionalInAlternation (writtenAlternatives alternatives))
  return some (.alternation alternatives, rest)

/-- Read the segment at the start of a text that is not empty. -/
def readSegment (chars : List Char) :
    Except SyntaxError (Segment × List Char) := do
  if let some found ← readAlternation chars then return found
  match chars with
  | '(' :: inside =>
      let (text, rest) ← readOptional inside
      return (.optional text, rest)
  | '\x7B' :: inside =>
      let (name, rest) ← readParameter inside
      return (.parameter (String.ofList name), rest)
  | ' ' :: _ =>
      return (.blanks (chars.takeWhile (· == ' ')), chars.dropWhile (· == ' '))
  | _ =>
      let (text, rest) ← takeWritten isTextChar chars
      return (.text text, rest)

/-- Read segments to the end of a text; `fuel` bounds their number. -/
def readSegments : Nat → List Char → Except SyntaxError (List Segment)
  | _, [] => .ok []
  | 0, _ :: _ => .ok []
  | fuel + 1, chars => do
      let (segment, rest) ← readSegment chars
      return segment :: (← readSegments fuel rest)

/-- The segments of an expression. -/
def parse (source : String) : Except SyntaxError (List Segment) :=
  let chars := source.toList
  readSegments chars.length chars

end ScenarioRunner.Expression
