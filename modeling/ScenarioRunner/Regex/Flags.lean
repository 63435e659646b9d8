import ScenarioRunner.Regex.Node

/-!
# Flags of a pattern

The flags that hold at a place of a pattern, and what a character, a class, a
dot or an anchor written there means under them.
-/

namespace ScenarioRunner.Regex

/-- Why a pattern is no regular expression. -/
inductive SyntaxError where
  | unclosedGroup
  | unopenedGroup
  | unclosedClass
  | emptyGroupName
  | invalidGroupName
  | duplicateGroupName (name : String)
  | unknownFlag
  | duplicateFlag
  | danglingFlagNegation
  | lookaround
  | backreference
  | unfinishedEscape
  | unknownEscape
  | invalidHexadecimal
  | unknownProperty
  | escapeInClass
  | invalidRange
  | repetitionWithoutBody
  | unclosedCount
  | invalidCount
  | bytesOutsideText
  deriving DecidableEq, Repr

/-- The flags that hold at a place of a pattern. -/
structure Flags where
  /-- Letters match up to case. -/
  ignoreCase : Bool := false
  /-- `^` and `$` match at every line. -/
  multiLine : Bool := false
  /-- The dot matches line breaks too. -/
  dotAll : Bool := false
  /-- Greedy and lazy repetitions change places. -/
  swapGreed : Bool := false
  /-- Named classes hold characters of every script. -/
  unicode : Bool := true
  /-- `\r` also ends a line. -/
  anyBreak : Bool := false
  /-- Blanks and comments in the pattern mean nothing. -/
  verbose : Bool := false
  deriving DecidableEq, Repr

namespace Flags

/-- The flags with the flag of a letter set or cleared. -/
def set? (flags : Flags) (letter : Char) (value : Bool) : Option Flags :=
  match letter with
  | 'i' => some { flags with ignoreCase := value }
  | 'm' => some { flags with multiLine := value }
  | 's' => some { flags with dotAll := value }
  | 'U' => some { flags with swapGreed := value }
  | 'u' => some { flags with unicode := value }
  | 'R' => some { flags with anyBreak := value }
  | 'x' => some { flags with verbose := value }
  | _ => none

/-- A class, or under `i` the class of all case forms of its characters. -/
def fold (flags : Flags) (members : CharClass) : CharClass :=
  if !flags.ignoreCase then members
  else if flags.unicode then .anyCase members
  else .inter (.anyCase members) (.range '\x00' '\x7F')

/-- A class or its complement.  Without `u` a complement would hold bytes that
are part of no character, which is refused. -/
def negate (flags : Flags) (negated : Bool) (members : CharClass) :
    Except SyntaxError CharClass :=
  if !negated then .ok members
  else if flags.unicode then .ok (.complement members)
  else .error .bytesOutsideText

/-- The pattern of a literal character. -/
def literal (flags : Flags) (char : Char) : Node :=
  .oneOf (flags.fold (.single char))

/-- The pattern of a dot. -/
def dot (flags : Flags) : Except SyntaxError Node :=
  if !flags.unicode then .error .bytesOutsideText
  else if flags.dotAll then .ok (.oneOf .all)
  else if flags.anyBreak then
    .ok (.oneOf (.complement (.ofRanges [('\n', '\n'), ('\r', '\r')])))
  else .ok (.oneOf (.complement (.single '\n')))

/-- The condition of `^`. -/
def startAnchor (flags : Flags) : Anchor :=
  if !flags.multiLine then .textStart
  else if flags.anyBreak then .lineStartAnyBreak
  else .lineStart

/-- The condition of `$`. -/
def endAnchor (flags : Flags) : Anchor :=
  if !flags.multiLine then .textEnd
  else if flags.anyBreak then .lineEndAnyBreak
  else .lineEnd

/-- The characters of words. -/
def wordClass (flags : Flags) : CharClass :=
  if flags.unicode then .word else .asciiWord

/-- Digits. -/
def digitClass (flags : Flags) : CharClass :=
  if flags.unicode then .digit else .asciiDigit

/-- White space. -/
def blankClass (flags : Flags) : CharClass :=
  if flags.unicode then .blank else .asciiBlank

end Flags

/--
The rest of a pattern after blanks and comments.  A comment goes from `#` to
the end of its line.
-/
def skipBlanksAndComments : Bool → List Char → List Char
  | _, [] => []
  | true, char :: rest => skipBlanksAndComments (char != '\n') rest
  | false, char :: rest =>
      if Text.isBlank char then skipBlanksAndComments false rest
      else if char == '#' then skipBlanksAndComments true rest
      else char :: rest

/-- The rest of a pattern from the next character that means something. -/
def Flags.skip (flags : Flags) (chars : List Char) : List Char :=
  if flags.verbose then skipBlanksAndComments false chars else chars

end ScenarioRunner.Regex
