import ScenarioRunner.Regex.Flags

/-!
# Escapes in patterns

What stands after a backslash: a character that would otherwise have a
meaning, a control character, a code point in hexadecimal, a named class or a
condition on the place.
-/

namespace ScenarioRunner.Regex

/-- What an escape, or a character alone, stands for. -/
inductive Primitive where
  | literal (char : Char)
  | members (allowed : CharClass)
  | condition (anchor : Anchor)
  deriving DecidableEq, Repr

/-- Whether a character has a meaning of its own in patterns. -/
def isMeta (char : Char) : Bool :=
  "\\.+*?()|[]\x7B\x7D^$#&-~".toList.contains char

/-- Whether a character may be written after a backslash to mean itself. -/
def isEscapable (char : Char) : Bool :=
  isMeta char ||
    (char.toNat < 0x80 && !char.isAlphanum && char != '<' && char != '>')

/-- The value of a hexadecimal digit. -/
def hexValue? (char : Char) : Option Nat :=
  if '0' ≤ char && char ≤ '9' then some (char.toNat - '0'.toNat)
  else if 'a' ≤ char && char ≤ 'f' then some (char.toNat - 'a'.toNat + 10)
  else if 'A' ≤ char && char ≤ 'F' then some (char.toNat - 'A'.toNat + 10)
  else none

/-- The character of a code point, unless there is none. -/
def charOfCode? (code : Nat) : Except SyntaxError Char :=
  if code.isValidChar then .ok (Char.ofNat code) else .error .invalidHexadecimal

namespace Escape

/-- So many hexadecimal digits, from the next character on. -/
def fixedHex (flags : Flags) :
    Nat → Nat → List Char → Except SyntaxError (Nat × List Char)
  | 0, value, chars => .ok (value, chars)
  | count + 1, value, chars =>
      match flags.skip chars with
      | [] => .error .unfinishedEscape
      | char :: rest =>
          match hexValue? char with
          | none => .error .invalidHexadecimal
          | some digit => fixedHex flags count (value * 16 + digit) rest

/-- Hexadecimal digits up to a closing brace; `fuel` bounds their number. -/
def bracedHex (flags : Flags) :
    Nat → Bool → Nat → List Char → Except SyntaxError (Nat × List Char)
  | 0, _, _, _ => .error .unfinishedEscape
  | fuel + 1, isEmpty, value, chars =>
      match flags.skip chars with
      | [] => .error .unfinishedEscape
      | '\x7D' :: rest =>
          if isEmpty then .error .invalidHexadecimal else .ok (value, rest)
      | char :: rest =>
          match hexValue? char with
          | none => .error .invalidHexadecimal
          | some digit => bracedHex flags fuel false (value * 16 + digit) rest

/-- A code point after `\x`, `\u` or `\U`. -/
def hexadecimal (flags : Flags) (width : Nat) (chars : List Char) :
    Except SyntaxError (Primitive × List Char) := do
  let (code, rest) ←
    match flags.skip chars with
    | [] => .error .unfinishedEscape
    | '\x7B' :: rest => bracedHex flags (rest.length + 1) true 0 rest
    | start => fixedHex flags width 0 start
  let char ← charOfCode? code
  if !flags.unicode && 0x80 ≤ code && width == 2 then
    throw .bytesOutsideText
  return (.literal char, flags.skip rest)

/-- The name of a property up to a closing brace. -/
def propertyName (flags : Flags) :
    Nat → List Char → List Char → Except SyntaxError (String × List Char)
  | 0, _, _ => .error .unfinishedEscape
  | fuel + 1, taken, chars =>
      match flags.skip chars with
      | [] => .error .unfinishedEscape
      | '\x7D' :: rest => .ok (String.ofList taken.reverse, rest)
      | char :: rest => propertyName flags fuel (char :: taken) rest

/-- The class after `\p` or, negated, `\P`. -/
def property (flags : Flags) (negated : Bool) (chars : List Char) :
    Except SyntaxError (Primitive × List Char) := do
  let (name, rest) ←
    match flags.skip chars with
    | [] => .error .unfinishedEscape
    | '\x7B' :: rest => propertyName flags (rest.length + 1) [] rest
    | '\\' :: _ => .error .unknownProperty
    | char :: rest => .ok (String.singleton char, flags.skip rest)
  if !flags.unicode then throw .bytesOutsideText
  let some members := CharClass.named? name | throw .unknownProperty
  return (.members (← flags.negate negated (flags.fold members)), rest)

/-- Letters and hyphens after the brace of a boundary such as `\b{start}`. -/
def boundaryName (flags : Flags) :
    Nat → List Char → List Char → String × List Char
  | 0, taken, chars => (String.ofList taken.reverse, chars)
  | fuel + 1, taken, chars =>
      match chars with
      | char :: rest =>
          if char.isAlpha || char == '-' then
            boundaryName flags fuel (char :: taken) (flags.skip rest)
          else (String.ofList taken.reverse, chars)
      | [] => (String.ofList taken.reverse, [])

/-- The condition of `\b`, which may name one side of a word in braces. -/
def boundary (flags : Flags) (chars : List Char) :
    Except SyntaxError (Primitive × List Char) :=
  let letters := flags.wordClass
  let plain := .ok (.condition (.wordBoundary letters), chars)
  match chars with
  | '\x7B' :: inside =>
      match flags.skip inside with
      | [] => .error .unclosedCount
      | first :: rest =>
          if first.isAlpha || first == '-' then
            let (name, rest) :=
              boundaryName flags (rest.length + 1) [] (first :: rest)
            match name, rest with
            | "start", '\x7D' :: rest => .ok (.condition (.wordStart letters), rest)
            | "end", '\x7D' :: rest => .ok (.condition (.wordEnd letters), rest)
            | "start-half", '\x7D' :: rest =>
                .ok (.condition (.wordStartHalf letters), rest)
            | "end-half", '\x7D' :: rest =>
                .ok (.condition (.wordEndHalf letters), rest)
            | _, _ => .error .unknownEscape
          else plain
  | _ => plain

/-- Read what follows a backslash. -/
def read (flags : Flags) (chars : List Char) :
    Except SyntaxError (Primitive × List Char) :=
  let named (members : CharClass) (negated : Bool) (rest : List Char) := do
    return (Primitive.members (← flags.negate negated members), rest)
  match chars with
  | [] => .error .unfinishedEscape
  | char :: rest =>
      match char with
      | 'x' => hexadecimal flags 2 rest
      | 'u' => hexadecimal flags 4 rest
      | 'U' => hexadecimal flags 8 rest
      | 'p' => property flags false rest
      | 'P' => property flags true rest
      | 'd' => named flags.digitClass false rest
      | 'D' => named flags.digitClass true rest
      | 's' => named flags.blankClass false rest
      | 'S' => named flags.blankClass true rest
      | 'w' => named flags.wordClass false rest
      | 'W' => named flags.wordClass true rest
      | 'a' => .ok (.literal '\x07', rest)
      | 'f' => .ok (.literal '\x0C', rest)
      | 't' => .ok (.literal '\t', rest)
      | 'n' => .ok (.literal '\n', rest)
      | 'r' => .ok (.literal '\r', rest)
      | 'v' => .ok (.literal '\x0B', rest)
      | 'A' => .ok (.condition .textStart, rest)
      | 'z' => .ok (.condition .textEnd, rest)
      | 'b' => boundary flags rest
      | 'B' => .ok (.condition (.notWordBoundary flags.wordClass), rest)
      | '<' => .ok (.condition (.wordStart flags.wordClass), rest)
      | '>' => .ok (.condition (.wordEnd flags.wordClass), rest)
      | _ =>
          if char.isDigit then .error .backreference
          else if isEscapable char then .ok (.literal char, rest)
          else .error .unknownEscape

end Escape

end ScenarioRunner.Regex
