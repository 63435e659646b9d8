import ScenarioRunner.Regex.Node

/-!
# Matching

A match is searched from the left: the earliest place where the pattern
matches, and there the match that the order of alternatives prefers.  `search`
goes through the ways to match a pattern in that order and hands each to a
continuation, until one of them succeeds.

A repetition without an upper bound goes on with another copy only after a
copy that took some text, so a search always ends: the text that is left
bounds the number of copies.
-/

namespace ScenarioRunner.Regex

/-- A place in a text: what is before it, nearest first, and what is after. -/
structure Cursor where
  before : List Char
  after : List Char
  deriving DecidableEq, Repr

namespace Cursor

/-- The place before the first character. -/
def start (text : List Char) : Cursor := ⟨[], text⟩

/-- The number of characters before the place. -/
def position (cursor : Cursor) : Nat := cursor.before.length

/-- The place one character on, and that character. -/
def next? (cursor : Cursor) : Option (Char × Cursor) :=
  match cursor.after with
  | [] => none
  | char :: rest => some (char, ⟨char :: cursor.before, rest⟩)

/-- The place a number of characters on, or the end of the text. -/
def advance (cursor : Cursor) : Nat → Cursor
  | 0 => cursor
  | count + 1 =>
      match cursor.after with
      | [] => cursor
      | char :: rest => advance ⟨char :: cursor.before, rest⟩ count

end Cursor

namespace Anchor

/-- Whether a place has a character of the class on its left. -/
def onLeft (letters : CharClass) (cursor : Cursor) : Bool :=
  cursor.before.head?.any letters.contains

/-- Whether a place has a character of the class on its right. -/
def onRight (letters : CharClass) (cursor : Cursor) : Bool :=
  cursor.after.head?.any letters.contains

/-- Whether a place meets a condition. -/
def holds : Anchor → Cursor → Bool
  | .textStart, cursor => cursor.before.isEmpty
  | .textEnd, cursor => cursor.after.isEmpty
  | .lineStart, cursor => cursor.before.head?.all (· == '\n')
  | .lineEnd, cursor => cursor.after.head?.all (· == '\n')
  | .lineStartAnyBreak, cursor =>
      match cursor.before.head? with
      | none => true
      | some '\n' => true
      | some '\r' => cursor.after.head? != some '\n'
      | some _ => false
  | .lineEndAnyBreak, cursor =>
      match cursor.after.head? with
      | none => true
      | some '\r' => true
      | some '\n' => cursor.before.head? != some '\r'
      | some _ => false
  | .wordBoundary letters, cursor => onLeft letters cursor != onRight letters cursor
  | .notWordBoundary letters, cursor => onLeft letters cursor == onRight letters cursor
  | .wordStart letters, cursor => !onLeft letters cursor && onRight letters cursor
  | .wordEnd letters, cursor => onLeft letters cursor && !onRight letters cursor
  | .wordStartHalf letters, cursor => !onLeft letters cursor
  | .wordEndHalf letters, cursor => !onRight letters cursor

end Anchor

/-- The part of a text from one position to another. -/
structure Span where
  start : Nat
  stop : Nat
  deriving DecidableEq, Repr

/-- The text of a span. -/
def Span.of (span : Span) (text : List Char) : List Char :=
  (text.drop span.start).take (span.stop - span.start)

/-- What the groups matched so far, the latest first. -/
abbrev Captures := List (Nat × Span)

/-- The state of a search: the place reached and the groups matched. -/
structure Reach where
  cursor : Cursor
  captures : Captures
  deriving DecidableEq, Repr

/-- What is done with a place that the pattern so far can reach. -/
abbrev Continuation (Result : Type) := Reach → Option Result

namespace Search

variable {Result : Type}

/-- The first of two attempts that succeeds; the second runs only if needed. -/
def orElse (first : Option Result) (second : Unit → Option Result) :
    Option Result :=
  match first with
  | some result => some result
  | none => second ()

/-- Two attempts in the order that greed asks for. -/
def prefer (greedy : Bool) (more stop : Unit → Option Result) :
    Option Result :=
  if greedy then orElse (more ()) stop else orElse (stop ()) more

/-- Exactly so many copies of a body. -/
def exactly (body : Continuation Result → Continuation Result) :
    Nat → Continuation Result → Continuation Result
  | 0, next => next
  | count + 1, next => body (exactly body count next)

/-- At most so many copies of a body. -/
def upTo (body : Continuation Result → Continuation Result) (greedy : Bool) :
    Nat → Continuation Result → Continuation Result
  | 0, next => next
  | count + 1, next => fun reach =>
      prefer greedy (fun _ => body (upTo body greedy count next) reach)
        (fun _ => next reach)

/--
One copy of a body and any number of further ones.  Every copy but the first
has to take some text, and `fuel` bounds how many copies can do so.
-/
def oneOrMore (body : Continuation Result → Continuation Result)
    (greedy : Bool) (next : Continuation Result) :
    Nat → Bool → Continuation Result
  | 0, _ => fun _ => none
  | fuel + 1, isFirst => fun reach =>
      body
        (fun reached =>
          if reached.cursor.after.length < reach.cursor.after.length then
            prefer greedy
              (fun _ => oneOrMore body greedy next fuel false reached)
              (fun _ => next reached)
          else if isFirst then next reached
          else none)
        reach

/-- At least so many copies of a body, without an upper bound. -/
def unbounded (body : Continuation Result → Continuation Result)
    (greedy : Bool) (atLeast : Nat) (next : Continuation Result) :
    Continuation Result :=
  let loop : Continuation Result := fun reach =>
    oneOrMore body greedy next (reach.cursor.after.length + 1) true reach
  match atLeast with
  | 0 => fun reach => prefer greedy (fun _ => loop reach) (fun _ => next reach)
  | count + 1 => exactly body count loop

end Search

namespace Node

variable {Result : Type}

/--
Try the ways to match a pattern at a place, in order of preference, until the
continuation accepts one.
-/
def search : Node → Continuation Result → Continuation Result
  | .empty, next => next
  | .oneOf allowed, next => fun reach =>
      match reach.cursor.next? with
      | some (char, cursor) =>
          if allowed.contains char then next { reach with cursor } else none
      | none => none
  | .anchor condition, next => fun reach =>
      if condition.holds reach.cursor then next reach else none
  | .seq first second, next => first.search (second.search next)
  | .alt first second, next => fun reach =>
      Search.orElse (first.search next reach) fun _ => second.search next reach
  | .repeat body atLeast (some atMost) greedy, next =>
      Search.exactly body.search atLeast
        (Search.upTo body.search greedy (atMost - atLeast) next)
  | .repeat body atLeast none greedy, next =>
      Search.unbounded body.search greedy atLeast next
  | .group index _ body, next => fun reach =>
      body.search
        (fun reached =>
          next
            { reached with
              captures :=
                (index, ⟨reach.cursor.position, reached.cursor.position⟩) ::
                  reached.captures })
        reach

/-- The preferred match that starts at a place. -/
def matchAt? (node : Node) (cursor : Cursor) : Option Reach :=
  node.search some ⟨cursor, []⟩

end Node

/-- A match: the whole of it and its groups. -/
structure Match where
  whole : Span
  captures : Captures
  deriving DecidableEq, Repr

namespace Match

/-- The span of a group that took part in the match. -/
def group? (found : Match) (index : Nat) : Option Span :=
  found.captures.lookup index

end Match

/-- The leftmost match that starts at or after a place. -/
def Node.findFrom? (node : Node) (before : List Char) :
    List Char → Option Match
  | [] =>
      (node.matchAt? ⟨before, []⟩).map fun reach =>
        ⟨⟨before.length, reach.cursor.position⟩, reach.captures⟩
  | char :: rest =>
      match node.matchAt? ⟨before, char :: rest⟩ with
      | some reach =>
          some ⟨⟨before.length, reach.cursor.position⟩, reach.captures⟩
      | none => node.findFrom? (char :: before) rest

end ScenarioRunner.Regex
