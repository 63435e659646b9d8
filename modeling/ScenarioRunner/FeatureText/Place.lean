import ScenarioRunner.Feature.Document

/-!
# Reading from a place in a text

A place is what remains of a text together with the line and column where it
begins.  A reader takes a place and gives a value and the place behind it, or
nothing where the text has another form; nothing is consumed then.
-/

namespace ScenarioRunner.FeatureText

/-- A place in a text. -/
structure Place where
  rest : List Char
  line : Nat := 1
  column : Nat := 1
  deriving DecidableEq, Repr, Inhabited

namespace Place

/-- The place behind the next character; a column is one byte wide. -/
def next (place : Place) : Place :=
  match place.rest with
  | [] => place
  | '\n' :: rest => { rest, line := place.line + 1, column := 1 }
  | char :: rest =>
      { rest, line := place.line, column := place.column + char.utf8Size }

/-- The place a number of characters further on. -/
def skip (place : Place) : Nat → Place
  | 0 => place
  | count + 1 => place.next.skip count

/-- The line and column of a place. -/
def location (place : Place) : Location :=
  { line := place.line, column := some place.column }

@[simp] theorem skip_zero (place : Place) : place.skip 0 = place := rfl

end Place

/-- A reader of values from places. -/
abbrev Reader := StateT Place Option

namespace Reader

variable {A : Type}

/-- The current place. -/
def here : Reader Place := get

/-- Skip a number of characters. -/
def skip (count : Nat) : Reader Unit := modify (·.skip count)

/-- Take a number of characters. -/
def take (count : Nat) : Reader (List Char) := do
  let place ← here
  skip count
  return place.rest.take count

/-- Succeed without consuming anything if the rest of the text has a
property. -/
def check (property : List Char → Bool) : Reader Unit := do
  let place ← here
  guard (property place.rest)

/-- Skip the given characters. -/
def exactly (expected : List Char) : Reader Unit := do
  check expected.isPrefixOf
  skip expected.length

/-- Read a value if there is one. -/
def optionally (reader : Reader A) : Reader (Option A) :=
  some <$> reader <|> pure none

/-- Read values as long as there are any. -/
def many (reader : Reader A) (place : Place) : Option (List A × Place) :=
  match reader place with
  | none => some ([], place)
  | some (value, behind) =>
      if behind.rest.length < place.rest.length then
        (many reader behind).map fun (values, last) => (value :: values, last)
      else
        some ([], place)
termination_by place.rest.length

end Reader

end ScenarioRunner.FeatureText
