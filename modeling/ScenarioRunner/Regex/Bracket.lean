import ScenarioRunner.Regex.Escape

/-!
# Bracketed classes

The classes written between `[` and `]`.  A class is a union of characters,
ranges, named classes and nested brackets, and such unions may be joined by
the operators `&&`, `--` and `~~`, which group to the left.  The reader keeps
the brackets and operators that are still open on a stack.
-/

namespace ScenarioRunner.Regex.Bracket

/-- The operators between the unions of a bracketed class. -/
inductive Operator where
  | intersection
  | difference
  | symmetricDifference
  deriving DecidableEq, Repr

/-- The class that an operator makes of two. -/
def Operator.apply (operator : Operator) (left right : CharClass) : CharClass :=
  match operator with
  | .intersection => .inter left right
  | .difference => .difference left right
  | .symmetricDifference => .symmetricDifference left right

/-- What a bracketed class waits for. -/
inductive Frame where
  /-- A bracket inside a union that began with these members. -/
  | opened (outer : List CharClass) (negated : Bool)
  /-- An operator whose left side is known. -/
  | operator (operator : Operator) (left : CharClass)
  deriving DecidableEq, Repr

/-- A class in the making: the open frames and the members read last. -/
structure State where
  frames : List Frame
  members : List CharClass
  deriving DecidableEq, Repr

/-- The hyphens at the start of a class, which mean themselves. -/
def leadingHyphens (flags : Flags) :
    Nat → List CharClass → List Char →
      Except SyntaxError (List CharClass × List Char)
  | fuel + 1, members, '-' :: rest =>
      match flags.skip rest with
      | [] => .error .unclosedClass
      | next => leadingHyphens flags fuel (.single '-' :: members) next
  | _, members, chars => .ok (members, chars)

/-- Read what follows an opening bracket: negation and literal first members. -/
def opening (flags : Flags) (chars : List Char) :
    Except SyntaxError (Bool × List CharClass × List Char) := do
  let (negated, chars) ←
    match flags.skip chars with
    | [] => .error .unclosedClass
    | '^' :: rest =>
        match flags.skip rest with
        | [] => .error .unclosedClass
        | next => .ok (true, next)
    | next => .ok (false, next)
  let (members, chars) ← leadingHyphens flags (chars.length + 1) [] chars
  match members, chars with
  | [], ']' :: rest =>
      match flags.skip rest with
      | [] => .error .unclosedClass
      | next => return (negated, [.single ']'], next)
  | _, _ => return (negated, members, chars)

/-- A class such as `[:alpha:]`, from after its first bracket. -/
def asciiClass? (flags : Flags) (chars : List Char) :
    Option (Except SyntaxError CharClass × List Char) :=
  match chars with
  | ':' :: rest =>
      let (negated, rest) :=
        match rest with
        | '^' :: rest => (true, rest)
        | _ => (false, rest)
      let name := String.ofList (rest.takeWhile (· != ':'))
      match rest.dropWhile (· != ':') with
      | ':' :: ']' :: rest =>
          (CharClass.asciiNamed? name).map fun members =>
            (flags.negate negated (flags.fold members), rest)
      | _ => none
  | _ => none

/-- One character or escape of a class. -/
def item (flags : Flags) : List Char →
    Except SyntaxError (Primitive × List Char)
  | [] => .error .unclosedClass
  | '\\' :: rest => Escape.read flags rest
  | char :: rest => .ok (.literal char, rest)

/-- The character that an end of a range has to be. -/
def rangeEnd : Primitive → Except SyntaxError Char
  | .literal char => .ok char
  | .members _ | .condition _ => .error .escapeInClass

/-- The class of an item that stands alone. -/
def itemClass : Primitive → Except SyntaxError CharClass
  | .literal char => .ok (.single char)
  | .members allowed => .ok allowed
  | .condition _ => .error .escapeInClass

/-- A class of characters that may be written without the flag `u`. -/
def checkAscii (flags : Flags) (char : Char) : Except SyntaxError Unit :=
  if !flags.unicode && 0x80 ≤ char.toNat then .error .bytesOutsideText
  else .ok ()

/-- One item of a class, or a range between two. -/
def itemOrRange (flags : Flags) (chars : List Char) :
    Except SyntaxError (CharClass × List Char) := do
  let (first, rest) ← item flags chars
  let rest := flags.skip rest
  let isRange :=
    match rest with
    | '-' :: after =>
        match flags.skip after with
        | ']' :: _ | '-' :: _ => false
        | _ => true
    | _ => false
  if rest.isEmpty then throw .unclosedClass
  if !isRange then
    if let .literal char := first then checkAscii flags char
    return (← itemClass first, rest)
  match flags.skip rest.tail with
  | [] => throw .unclosedClass
  | after =>
      let (second, rest) ← item flags after
      let first ← rangeEnd first
      let last ← rangeEnd second
      checkAscii flags first
      checkAscii flags last
      if last < first then throw .invalidRange
      return (.range first last, rest)

/-- The members read last as a class, joined to the operator before them. -/
def operand (flags : Flags) (state : State) : CharClass × List Frame :=
  let right := CharClass.unions state.members.reverse
  match state.frames with
  | .operator operator left :: frames =>
      (operator.apply (flags.fold left) (flags.fold right), frames)
  | frames => (right, frames)

/-- Go on after an operator. -/
def beginOperator (flags : Flags) (operator : Operator) (state : State) :
    State :=
  let (left, frames) := operand flags state
  ⟨.operator operator left :: frames, []⟩

/-- Read a class up to its closing bracket; `fuel` bounds the steps. -/
def loop (flags : Flags) :
    Nat → State → List Char → Except SyntaxError (CharClass × List Char)
  | 0, _, _ => .error .unclosedClass
  | fuel + 1, state, chars =>
      let nested (rest : List Char) := do
        let (negated, members, rest) ← opening flags rest
        loop flags fuel ⟨.opened state.members negated :: state.frames, members⟩
          rest
      match flags.skip chars with
      | [] => .error .unclosedClass
      | '[' :: rest =>
          match asciiClass? flags rest with
          | some (members, rest) => do
              loop flags fuel { state with members := (← members) :: state.members }
                rest
          | none => nested rest
      | ']' :: rest => do
          let (inside, frames) := operand flags state
          match frames with
          | .opened outer negated :: frames =>
              let whole ← flags.negate negated (flags.fold inside)
              if frames.isEmpty then return (whole, rest)
              loop flags fuel ⟨frames, whole :: outer⟩ rest
          | _ => throw .unclosedClass
      | '&' :: '&' :: rest =>
          loop flags fuel (beginOperator flags .intersection state) rest
      | '-' :: '-' :: rest =>
          loop flags fuel (beginOperator flags .difference state) rest
      | '~' :: '~' :: rest =>
          loop flags fuel (beginOperator flags .symmetricDifference state) rest
      | chars => do
          let (member, rest) ← itemOrRange flags chars
          loop flags fuel { state with members := member :: state.members } rest

/-- Read a bracketed class from after its opening bracket. -/
def read (flags : Flags) (chars : List Char) :
    Except SyntaxError (CharClass × List Char) := do
  let (negated, members, rest) ← opening flags chars
  loop flags (chars.length + 1) ⟨[.opened [] negated], members⟩ rest

end ScenarioRunner.Regex.Bracket
