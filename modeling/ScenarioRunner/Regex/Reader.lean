import ScenarioRunner.Regex.Bracket

/-!
# Reading patterns

A pattern is read from the left.  The reader keeps the groups that are still
open, and for the innermost one the alternatives that are finished and the
items of the one being read; a repetition applies to the last item.  Flags
set inside a group hold until its end.
-/

namespace ScenarioRunner.Regex.Reader

/-- A part of a sequence, and whether it may be repeated. -/
structure Item where
  node : Node
  repeatable : Bool := true
  deriving DecidableEq, Repr

/-- The content of a group so far, the latest part first. -/
structure Level where
  finished : List Node := []
  items : List Item := []
  deriving DecidableEq, Repr

namespace Level

/-- The alternative being read. -/
def alternative (level : Level) : Node :=
  .sequence ((level.items.map Item.node).reverse.filter (· ≠ .empty))

/-- The whole content. -/
def node (level : Level) : Node :=
  .choice (level.alternative :: level.finished).reverse

/-- The content with one more part. -/
def push (level : Level) (node : Node) : Level :=
  { level with items := ⟨node, true⟩ :: level.items }

/-- The content after a bar. -/
def bar (level : Level) : Level :=
  ⟨level.alternative :: level.finished, []⟩

end Level

/-- A group that is open: what is before it and what it becomes. -/
structure OpenGroup where
  outer : Level
  outerFlags : Flags
  capture : Option (Nat × Option String)
  deriving DecidableEq, Repr

/-- How far a pattern has been read. -/
structure State where
  level : Level := {}
  enclosing : List OpenGroup := []
  flags : Flags := {}
  groupCount : Nat := 0
  names : List String := []
  deriving DecidableEq, Repr

namespace State

/-- The state with one more part in the innermost group. -/
def push (state : State) (node : Node) : State :=
  { state with level := state.level.push node }

/-- The state inside a new group. -/
def openGroup (state : State) (flags : Flags)
    (capture : Option (Nat × Option String)) : State :=
  { state with
    level := {}
    enclosing := ⟨state.level, state.flags, capture⟩ :: state.enclosing
    flags }

/-- The state inside a new capture group. -/
def openCapture (state : State) (name : Option String) : State :=
  let index := state.groupCount + 1
  { state.openGroup state.flags (some (index, name)) with groupCount := index }

/-- The state after the innermost group. -/
def closeGroup (state : State) : Except SyntaxError State :=
  match state.enclosing with
  | [] => .error .unopenedGroup
  | group :: enclosing =>
      let body := state.level.node
      let node :=
        match group.capture with
        | some (index, name) => .group index name body
        | none => body
      .ok
        { state with
          level := group.outer.push node
          enclosing
          flags := group.outerFlags }

/-- The state with the last item repeated. -/
def repeatLast (state : State) (atLeast : Nat) (atMost : Option Nat)
    (greedy : Bool) : Except SyntaxError State :=
  match state.level.items with
  | ⟨body, true⟩ :: items =>
      let node :=
        Node.repeated body atLeast atMost (greedy != state.flags.swapGreed)
      .ok { state with level := { state.level with items := ⟨node, true⟩ :: items } }
  | _ => .error .repetitionWithoutBody

end State

/-- Whether a character may stand in a group name. -/
def isNameChar (isFirst : Bool) (char : Char) : Bool :=
  let isLetter :=
    Text.Category.anyContains (.letterNumber :: Text.letterCategories) char
  if isFirst then char == '_' || isLetter
  else
    char == '_' || char == '.' || char == '[' || char == ']' || isLetter ||
      Text.Category.anyContains Text.numberCategories char

/-- Read a group name up to its closing bracket. -/
def groupName (chars : List Char) : Except SyntaxError (String × List Char) :=
  let name := chars.takeWhile (· != '>')
  match chars.dropWhile (· != '>') with
  | [] => .error .invalidGroupName
  | _ :: rest =>
      match name with
      | [] => .error .emptyGroupName
      | first :: later =>
          if isNameChar true first && later.all (isNameChar false) then
            .ok (String.ofList name, rest)
          else .error .invalidGroupName

/-- Whether a list begins with the characters of a text. -/
def startsWith (text : String) (chars : List Char) : Bool :=
  text.toList.isPrefixOf chars

/-- The flags written up to a colon or a closing bracket. -/
structure FlagChange where
  flags : Flags
  letters : List Char := []
  negated : Bool := false
  dangling : Bool := false
  deriving DecidableEq, Repr

/-- Read flags up to a colon or a closing bracket, which is left in place. -/
def flagChange (change : FlagChange) :
    List Char → Except SyntaxError (FlagChange × List Char)
  | [] => .error .unclosedGroup
  | char :: rest =>
      if char == ':' || char == ')' then
        if change.dangling then .error .danglingFlagNegation
        else .ok (change, char :: rest)
      else if char == '-' then
        if change.negated then .error .duplicateFlag
        else flagChange { change with negated := true, dangling := true } rest
      else if change.letters.contains char then .error .duplicateFlag
      else
        match change.flags.set? char (!change.negated) with
        | none => .error .unknownFlag
        | some flags =>
            flagChange
              { change with
                flags
                letters := char :: change.letters
                dangling := false }
              rest

/-- Read what follows an opening round bracket. -/
def openGroup (state : State) (chars : List Char) :
    Except SyntaxError (State × List Char) := do
  let chars := state.flags.skip chars
  if startsWith "?=" chars || startsWith "?!" chars ||
      startsWith "?<=" chars || startsWith "?<!" chars then
    throw .lookaround
  let named (rest : List Char) := do
    let (name, rest) ← groupName rest
    if state.names.contains name then throw (.duplicateGroupName name)
    return ({ state.openCapture (some name) with names := name :: state.names },
      rest)
  match chars with
  | '?' :: 'P' :: '<' :: rest => named rest
  | '?' :: '<' :: rest => named rest
  | '?' :: rest =>
      let (change, rest) ← flagChange { flags := state.flags } rest
      match rest with
      | ')' :: rest =>
          if change.letters.isEmpty && !change.negated then
            throw .repetitionWithoutBody
          return ({ state with
            flags := change.flags
            level := { state.level with
              items := ⟨.empty, false⟩ :: state.level.items } }, rest)
      | _ => return (state.openGroup change.flags none, rest.tail)
  | _ => return (state.openCapture none, chars)

/-- A question mark right after a repetition makes it lazy. -/
def laziness (chars : List Char) : Bool × List Char :=
  match chars with
  | '?' :: rest => (false, rest)
  | _ => (true, chars)

/-- Decimal digits up to the next character that is none. -/
def digits (flags : Flags) :
    Nat → List Char → List Char → List Char × List Char
  | fuel + 1, taken, char :: rest =>
      if char.isDigit then digits flags fuel (char :: taken) (flags.skip rest)
      else (taken.reverse, char :: rest)
  | _, taken, chars => (taken.reverse, chars)

/-- A number of copies, with blanks around it. -/
def count (flags : Flags) (chars : List Char) :
    Except SyntaxError Nat × List Char :=
  let chars := chars.dropWhile Text.isBlank
  let (taken, rest) := digits flags (chars.length + 1) [] chars
  let rest := flags.skip (rest.dropWhile Text.isBlank)
  let value := taken.foldl (fun value digit => value * 10 + (digit.toNat - 48)) 0
  if taken.isEmpty || 4294967296 ≤ value then (.error .invalidCount, rest)
  else (.ok value, rest)

/-- Read a repetition with counts from after its opening brace. -/
def countedRepetition (state : State) (chars : List Char) :
    Except SyntaxError (State × List Char) := do
  match state.level.items with
  | ⟨_, true⟩ :: _ => pure ()
  | _ => throw .repetitionWithoutBody
  let flags := state.flags
  let start := flags.skip chars
  if start.isEmpty then throw .unclosedCount
  let (first, rest) := count flags start
  let (atLeast, atMost, rest) ←
    match rest with
    | [] => throw .unclosedCount
    | ',' :: rest =>
        match flags.skip rest with
        | [] => throw .unclosedCount
        | '\x7D' :: rest => pure (← first, none, '\x7D' :: rest)
        | rest =>
            let atLeast ← first
            let (second, rest) := count flags rest
            let atMost ← second
            pure (atLeast, some atMost, rest)
    | rest =>
        let exact ← first
        pure (exact, some exact, rest)
  match rest with
  | '\x7D' :: rest =>
      let (greedy, rest) := laziness (flags.skip rest)
      if atMost.any (· < atLeast) then throw .invalidCount
      return (← state.repeatLast atLeast atMost greedy, rest)
  | _ => throw .unclosedCount

/-- Read a repetition without counts. -/
def repetition (state : State) (atLeast : Nat) (atMost : Option Nat)
    (chars : List Char) : Except SyntaxError (State × List Char) := do
  let (greedy, rest) := laziness chars
  return (← state.repeatLast atLeast atMost greedy, rest)

/-- The pattern of an escape outside of brackets. -/
def primitiveNode (flags : Flags) : Primitive → Node
  | .literal char => flags.literal char
  | .members allowed => .oneOf allowed
  | .condition anchor => .anchor anchor

/-- Read the part of a pattern that begins with a character. -/
def part (state : State) (char : Char) (rest : List Char) :
    Except SyntaxError (State × List Char) :=
  match char with
  | '(' => openGroup state rest
  | ')' => do return (← state.closeGroup, rest)
  | '|' => .ok ({ state with level := state.level.bar }, rest)
  | '[' => do
      let (members, rest) ← Bracket.read state.flags rest
      return (state.push (.oneOf members), rest)
  | '?' => repetition state 0 (some 1) rest
  | '*' => repetition state 0 none rest
  | '+' => repetition state 1 none rest
  | '\x7B' => countedRepetition state rest
  | '\\' => do
      let (primitive, rest) ← Escape.read state.flags rest
      return (state.push (primitiveNode state.flags primitive), rest)
  | '.' => do return (state.push (← state.flags.dot), rest)
  | '^' => .ok (state.push (.anchor state.flags.startAnchor), rest)
  | '$' => .ok (state.push (.anchor state.flags.endAnchor), rest)
  | char => .ok (state.push (state.flags.literal char), rest)

/-- Read a pattern to its end; `fuel` bounds the number of parts. -/
def loop : Nat → State → List Char → Except SyntaxError State
  | 0, _, _ => .error .unclosedGroup
  | fuel + 1, state, chars =>
      match state.flags.skip chars with
      | [] => .ok state
      | char :: rest => do
          let (state, rest) ← part state char rest
          loop fuel state rest

/-- Read a whole pattern. -/
def read (chars : List Char) : Except SyntaxError Node := do
  let state ← loop (chars.length + 1) {} chars
  match state.enclosing with
  | [] => return state.level.node
  | _ :: _ => throw .unclosedGroup

end ScenarioRunner.Regex.Reader
