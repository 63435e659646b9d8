/-!
# Glob patterns

A pattern is a list of tokens, and a path is a list of bytes.  A token takes
bytes from the start of a path, in general in several ways; `Token.rests` gives
what may be left over.  A pattern matches a path if its tokens, one after the
other, can take all of it.
-/

namespace ScenarioRunner.Glob

/-- The byte between the names of a path. -/
def slash : UInt8 := '/'.toUInt8

/-- What a pattern consists of. -/
inductive Token where
  | byte (value : UInt8)
  /-- Any byte but a slash. -/
  | anyByte
  /-- Any number of bytes but slashes. -/
  | star
  /-- The directories at the start of a path, if any. -/
  | leadingDirectories
  /-- A slash and all that follows. -/
  | trailingPath
  /-- A slash, or directories between two slashes. -/
  | innerDirectories
  /-- A byte in one of some ranges, or else in none of them. -/
  | oneOf (negated : Bool) (ranges : List (UInt8 × UInt8))
  | alternatives (patterns : List (List Token))
  deriving Repr

/-- All ends of a text, the whole text first. -/
def tails : List UInt8 → List (List UInt8)
  | [] => [[]]
  | byte :: rest => (byte :: rest) :: tails rest

/-- What follows each slash of a text. -/
def afterSlashes : List UInt8 → List (List UInt8)
  | [] => []
  | byte :: rest =>
      if byte == slash then rest :: afterSlashes rest else afterSlashes rest

/-- What is left of a text behind any number of bytes that are no slashes. -/
def afterNames : List UInt8 → List (List UInt8)
  | [] => [[]]
  | byte :: rest =>
      if byte == slash then [byte :: rest]
      else (byte :: rest) :: afterNames rest

/-- What is left of a text behind a byte of a kind. -/
def afterByte (isAllowed : UInt8 → Bool) : List UInt8 → List (List UInt8)
  | [] => []
  | byte :: rest => if isAllowed byte then [rest] else []

/-- Whether a byte is in one of some ranges. -/
def inRanges (ranges : List (UInt8 × UInt8)) (byte : UInt8) : Bool :=
  ranges.any fun (first, last) => first ≤ byte && byte ≤ last

mutual

/-- Whether a token stands for nothing at all. -/
def Token.isVoid : Token → Bool
  | .alternatives patterns => allVoid patterns
  | _ => false

/-- Whether all patterns stand for nothing at all. -/
def allVoid : List (List Token) → Bool
  | [] => true
  | pattern :: others => isVoid pattern && allVoid others

/-- Whether a pattern stands for nothing at all. -/
def isVoid : List Token → Bool
  | [] => true
  | token :: others => token.isVoid && isVoid others

end

mutual

/-- What may be left of a text once a token has taken its part. -/
def Token.rests : Token → List UInt8 → List (List UInt8)
  | .byte value, text => afterByte (· == value) text
  | .anyByte, text => afterByte (· != slash) text
  | .star, text => afterNames text
  | .leadingDirectories, text => text :: afterSlashes text
  | .trailingPath, text => (afterByte (· == slash) text).flatMap tails
  | .innerDirectories, text =>
      (afterByte (· == slash) text).flatMap fun rest =>
        rest :: afterSlashes rest
  | .oneOf negated ranges, text =>
      afterByte (inRanges ranges · != negated) text
  | .alternatives patterns, text =>
      if allVoid patterns then [text] else restsOfSome patterns text

/-- What may be left of a text once one of some patterns has taken its part.
A pattern that stands for nothing is no alternative. -/
def restsOfSome : List (List Token) → List UInt8 → List (List UInt8)
  | [], _ => []
  | pattern :: others, text =>
      if isVoid pattern then restsOfSome others text
      else restsOfAll pattern [text] ++ restsOfSome others text

/-- What may be left of texts once a pattern has taken its part. -/
def restsOfAll : List Token → List (List UInt8) → List (List UInt8)
  | [], texts => texts
  | token :: others, texts =>
      restsOfAll others (texts.flatMap token.rests).eraseDups

end

/-- Whether a pattern matches a path.  The directories at the start of a path,
as a whole pattern, are any path. -/
def isMatch (pattern : List Token) (path : List UInt8) : Bool :=
  match pattern with
  | [.leadingDirectories] => true
  | pattern => (restsOfAll pattern [path]).contains []

@[simp] theorem restsOfAll_nil (texts : List (List UInt8)) :
    restsOfAll [] texts = texts := by simp [restsOfAll]

@[simp] theorem restsOfAll_cons (token : Token) (others : List Token)
    (texts : List (List UInt8)) :
    restsOfAll (token :: others) texts =
      restsOfAll others (texts.flatMap token.rests).eraseDups := by
  simp [restsOfAll]

end ScenarioRunner.Glob
