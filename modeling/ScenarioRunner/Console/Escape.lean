/-!
# Terminal codes

A terminal code begins with an escape character and tells the terminal how to
show what follows.  A code is either an introduction with parameters, which are
numbers of at most four digits between semicolons, and a final character, or a
bracket and the character of a character set.  Where several codes begin at a
place, the longest is meant.
-/

namespace ScenarioRunner.Console

/-- What has been read of a code. -/
inductive CodeState where
  | introduced
  /-- Behind a single bracket, which may name a character set. -/
  | charset
  /-- Before the first parameter. -/
  | opened
  /-- Behind so many digits of a parameter. -/
  | digits (count : Nat)
  /-- Behind a semicolon that ends a parameter. -/
  | separated
  | complete
  deriving DecidableEq, Repr

/-- Whether a character introduces a code. -/
def isIntroducer (char : Char) : Bool :=
  char == '\x1B' || char.toNat == 0x9B

/-- Whether a character that is no digit may end a code. -/
def isFinalLetter (char : Char) : Bool :=
  'A' ≤ char && char ≤ 'P' || 'f' ≤ char && char ≤ 'n' ||
    "RZcqry=><~".toList.contains char

namespace CodeState

/-- Whether a code may end here. -/
def isFinal : CodeState → Bool
  | .digits _ | .complete => true
  | _ => false

/-- Read one more digit. -/
def digit (state : CodeState) (char : Char) : Option CodeState :=
  match state with
  | .introduced | .opened | .separated => some (.digits 1)
  | .charset => some (if char ≤ '2' then .complete else .digits 1)
  | .digits count =>
      some (if count < 4 then .digits (count + 1) else .complete)
  | .complete => none

/-- Read one more character. -/
def step (state : CodeState) (char : Char) : Option CodeState :=
  if char.isDigit then state.digit char
  else if char == '(' || char == ')' then
    match state with
    | .introduced => some .charset
    | .charset | .opened => some .opened
    | _ => none
  else if char == ';' then
    match state with
    | .introduced | .charset | .opened => some .opened
    | .digits _ | .separated => some .separated
    | .complete => none
  else if char == '[' || char == '#' || char == '?' then
    match state with
    | .introduced | .charset | .opened => some .opened
    | _ => none
  else if isFinalLetter char && state != .complete then some .complete
  else none

/-- The number of characters up to the last place where a code may end. -/
def length? (state : CodeState) : List Char → Option Nat
  | [] => none
  | char :: rest =>
      match state.step char with
      | none => none
      | some next =>
          match next.length? rest with
          | some length => some (length + 1)
          | none => if next.isFinal then some 1 else none

end CodeState

/-- The parts of a text between the codes, once a number of characters is
dropped. -/
def partsFrom : Nat → List Char → List (List Char)
  | _, [] => [[]]
  | skipped + 1, _ :: rest => partsFrom skipped rest
  | 0, char :: rest =>
      match if isIntroducer char then CodeState.introduced.length? rest
        else none with
      | some length => [] :: partsFrom length rest
      | none =>
          match partsFrom 0 rest with
          | [] => [[char]]
          | part :: parts => (char :: part) :: parts

/-- The parts of a text between the codes. -/
def plainParts (text : List Char) : List (List Char) := partsFrom 0 text

/-- The colors of a report. -/
inductive Color where
  | red
  | yellow
  deriving DecidableEq, Repr

/-- The number that codes use for a color. -/
def Color.code : Color → String
  | .red => "31"
  | .yellow => "33"

/-- A text in a color, if colors are in use. -/
def paint (colored : Bool) (color : Color) (text : String) : String :=
  if colored then s!"\x1B[{color.code}m{text}\x1B[0m" else text

end ScenarioRunner.Console
