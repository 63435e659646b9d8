import ScenarioRunner.Glob.Pattern

/-!
# Reading glob patterns

`?` and `*` stand for bytes other than slashes, brackets for a class of bytes,
braces for alternatives between commas, and a backslash makes the character
behind it stand for itself.  Two stars stand for directories if they fill the
space between slashes or the ends of the pattern; elsewhere they are no more
than one.
-/

namespace ScenarioRunner.Glob

/-- Why a text is no pattern. -/
inductive SyntaxError where
  | unclosedClass
  | invalidRange (first last : Char)
  | unopenedAlternatives
  | unclosedAlternatives
  | unfinishedEscape
  deriving DecidableEq, Repr

/-- The bytes of a character. -/
def bytesOf (char : Char) : List UInt8 :=
  String.utf8EncodeChar char

/-- The range from a byte to itself. -/
def single (byte : UInt8) : UInt8 × UInt8 := (byte, byte)

/-- The ranges of bytes that a range of characters comes to: the last byte of
its first character to the first byte of its last one, and all other bytes of
the two. -/
def byteRanges : Char × Char → List (UInt8 × UInt8)
  | (first, last) =>
      if first == last then (bytesOf first).map single
      else
        match (bytesOf first).reverse, bytesOf last with
        | low :: before, high :: after =>
            before.map single ++ (low, high) :: after.map single
        | _, _ => []

/-- A brace that is open, with what came before it and the alternatives that
are complete.  All lists have the latest item first. -/
structure OpenBrace where
  before : List Token
  complete : List (List Token)
  deriving Repr

/-- A pattern in the making, the latest token first. -/
structure Draft where
  tokens : List Token := []
  braces : List OpenBrace := []
  deriving Repr

namespace Draft

/-- Add a token. -/
def push (draft : Draft) (token : Token) : Draft :=
  { draft with tokens := token :: draft.tokens }

/-- Add a character that stands for itself. -/
def pushChar (draft : Draft) (char : Char) : Draft :=
  { draft with
    tokens := ((bytesOf char).map .byte).reverse ++ draft.tokens }

/-- Open a brace. -/
def openBrace (draft : Draft) : Draft where
  tokens := []
  braces := ⟨draft.tokens, []⟩ :: draft.braces

/-- End an alternative; outside of braces a comma stands for itself. -/
def comma (draft : Draft) : Draft :=
  match draft.braces with
  | [] => draft.pushChar ','
  | brace :: outer =>
      { tokens := []
        braces :=
          { brace with
            complete := draft.tokens.reverse :: brace.complete } :: outer }

/-- Close a brace. -/
def closeBrace (draft : Draft) : Except SyntaxError Draft :=
  match draft.braces with
  | [] => .error .unopenedAlternatives
  | brace :: outer =>
      .ok {
        tokens :=
          .alternatives
            (draft.tokens.reverse :: brace.complete).reverse :: brace.before
        braces := outer }

/-- The tokens of a pattern that has ended. -/
def finish (draft : Draft) : Except SyntaxError (List Token) :=
  match draft.braces with
  | [] => .ok draft.tokens.reverse
  | _ :: _ => .error .unclosedAlternatives

/-- Put a token for directories in the place of the slash before it.  The
directories at the start, and all that follows a slash, take it in. -/
def replaceSlash (draft : Draft) (token : Token) : Draft :=
  match draft.tokens with
  | .leadingDirectories :: _ | .trailingPath :: _ => draft
  | _ :: before => { draft with tokens := token :: before }
  | [] => draft.push token

/-- Whether two stars after a character may stand for directories: they come
after a slash, or at the start of an alternative. -/
def startsName (draft : Draft) (previous : Option Char) : Bool :=
  previous == some '/' ||
    !draft.braces.isEmpty && (previous == some ',' || previous == some '\x7B')

/-- Whether a pattern or an alternative ends before a text. -/
def endsBefore (draft : Draft) (rest : List Char) : Bool :=
  match rest with
  | [] => true
  | char :: _ => !draft.braces.isEmpty && (char == ',' || char == '\x7D')

/-- Add two stars before a text that does not start with a slash. -/
def pushStars (draft : Draft) (previous : Option Char) (rest : List Char) :
    Draft :=
  if draft.tokens.isEmpty then
    if rest.isEmpty then draft.push .leadingDirectories
    else (draft.push .star).push .star
  else if draft.startsName previous && draft.endsBefore rest then
    draft.replaceSlash .trailingPath
  else (draft.push .star).push .star

/-- Add two stars and a slash. -/
def pushStarsSlash (draft : Draft) (previous : Option Char) : Draft :=
  if draft.tokens.isEmpty then draft.push .leadingDirectories
  else if draft.startsName previous then
    draft.replaceSlash .innerDirectories
  else ((draft.push .star).push .star).pushChar '/'

end Draft

/-- A class in the making, with the latest range first. -/
structure DraftClass where
  negated : Bool
  ranges : List (Char × Char) := []
  /-- Whether a hyphen waits for the end of a range. -/
  hyphen : Bool := false
  deriving Repr

namespace DraftClass

/-- Add a character, or complete a range with it. -/
def add (draft : DraftClass) (char : Char) : Except SyntaxError DraftClass :=
  match draft.hyphen, draft.ranges with
  | true, (first, _) :: others =>
      if char < first then .error (.invalidRange first char)
      else
        .ok { draft with ranges := (first, char) :: others, hyphen := false }
  | _, ranges =>
      .ok { draft with ranges := (char, char) :: ranges, hyphen := false }

/-- The token of a class that has ended; a hyphen at its end is a member. -/
def finish (draft : DraftClass) : Token :=
  let ranges :=
    if draft.hyphen then ('-', '-') :: draft.ranges else draft.ranges
  .oneOf draft.negated (ranges.reverse.flatMap byteRanges)

end DraftClass

mutual

/-- Read a pattern whose latest character is known. -/
def readFrom (draft : Draft) (previous : Option Char) :
    List Char → Except SyntaxError (List Token)
  | [] => draft.finish
  | '\\' :: [] => .error .unfinishedEscape
  | '\\' :: char :: rest => readFrom (draft.pushChar char) (some char) rest
  | '*' :: '*' :: '/' :: rest =>
      readFrom (draft.pushStarsSlash previous) (some '/') rest
  | '*' :: '*' :: rest =>
      readFrom (draft.pushStars previous rest) (some '*') rest
  | '*' :: rest => readFrom (draft.push .star) (some '*') rest
  | '?' :: rest => readFrom (draft.push .anyByte) (some '?') rest
  | '[' :: '!' :: rest => readClass draft { negated := true } rest
  | '[' :: '^' :: rest => readClass draft { negated := true } rest
  | '[' :: rest => readClass draft { negated := false } rest
  | '\x7B' :: rest => readFrom draft.openBrace (some '\x7B') rest
  | '\x7D' :: rest =>
      match draft.closeBrace with
      | .ok draft => readFrom draft (some '\x7D') rest
      | .error error => .error error
  | ',' :: rest => readFrom draft.comma (some ',') rest
  | char :: rest => readFrom (draft.pushChar char) (some char) rest

/-- Read a pattern inside a class.  A bracket or hyphen that comes first is a
member. -/
def readClass (draft : Draft) (members : DraftClass) :
    List Char → Except SyntaxError (List Token)
  | [] => .error .unclosedClass
  | char :: rest =>
      if char == ']' && !members.ranges.isEmpty then
        readFrom (draft.push members.finish) (some ']') rest
      else if char == '-' && !members.ranges.isEmpty && !members.hyphen then
        readClass draft { members with hyphen := true } rest
      else
        match members.add char with
        | .ok members => readClass draft members rest
        | .error error => .error error

end

/-- Read a pattern. -/
def read (pattern : List Char) : Except SyntaxError (List Token) :=
  readFrom {} none pattern

end ScenarioRunner.Glob
