import ScenarioRunner.FeatureText.Keyword
import ScenarioRunner.FeatureText.Line
import ScenarioRunner.Text.Lines

/-!
# Reading feature files

The reader of each part of a feature file.  A part that is described by free
text takes all lines up to a tag or a keyword of what may follow.  The kind of
a step that starts with `And` or `But` is that of the step before it, even if
that one belongs to another scenario, so the readers of steps hand on the kind
of the last step.
-/

namespace ScenarioRunner.FeatureText

/-! ## Tags -/

/-- The characters of the name of a tag. -/
def isTagCharacter (char : Char) : Bool :=
  !Text.isBlank char && char != '#' && char != '@'

/-- A tag without its `@`. -/
def tagName : Reader String := do
  Reader.exactly ['@']
  let place ← Reader.here
  let name := place.rest.takeWhile isTagCharacter
  guard (!name.isEmpty)
  Reader.skip name.length
  return String.ofList name

/-- The tags of one line, with the line break behind them. -/
def tagLine : Reader (List String) := do
  let first ← tagName
  let others ← Reader.many do
    indent
    tagName
  indent
  lineBreak
  let _ ← Reader.many lineBreak
  return first :: others

/-- The names of the tags in front of a keyword. -/
def tagNames : Reader (List String) := do
  let lines ← Reader.many do
    indent
    tagLine
  return lines.flatten

/-- Tags are located on the line above the keyword they belong to. -/
def tagsAbove (names : List String) (keyword : Place) : List (Tag Unit) :=
  names.map fun name =>
    { location := { line := max (keyword.line - 1) 1 }
      name := "@" ++ name
      id := () }

/-! ## Texts -/

/-- A text without the blanks at its end. -/
def trimmedEnd (text : List Char) : String :=
  String.ofList (Text.trimEnd text)

/-- The colon behind a keyword and the name behind that, which may be
missing. -/
def title : Reader String := do
  Reader.exactly [':']
  indent
  let name ← Reader.optionally restOfLine
  lineEnd
  return trimmedEnd (name.getD [])

/-- A line of a description, up to its end. -/
def descriptionLine (after : List String) : Reader String := do
  indent
  Reader.check fun text =>
    text.head? != some '@' && (keyword? after text).isNone
  let line ← restOfLine
  lineEnd
  return String.ofList line

/-- The lines of a description without the blank ones between them. -/
def description (after : List String) : Reader String := do
  let lines ← Reader.many (descriptionLine after)
  let joined := "\n".intercalate lines
  return if Text.isAllBlank joined then "" else joined

/-! ## Arguments of steps -/

/-- The number of characters before the first occurrence of a mark. -/
def lengthBefore? (mark : List Char) : List Char → Option Nat
  | [] => if mark.isEmpty then some 0 else none
  | char :: rest =>
      if mark.isPrefixOf (char :: rest) then some 0
      else (lengthBefore? mark rest).map (· + 1)

/-- A text between two equal marks, moved to the left margin. -/
def quotedBy (mark : List Char) : Reader String := do
  Reader.exactly mark
  let place ← Reader.here
  let length ← lengthBefore? mark place.rest
  let content ← Reader.take length
  Reader.exactly mark
  lineEnd
  return String.ofList (Text.dedent content)

/-- A text in three double quotes or three back quotes. -/
def docString : Reader String :=
  quotedBy ['"', '"', '"'] <|> quotedBy ['\x60', '\x60', '\x60']

/-- A cell of a table with the bar in front of it.  The last bar of a row
starts no cell. -/
def cell : Reader String := do
  Reader.exactly ['|']
  indent
  Reader.check fun text =>
    !text.isEmpty && (lineBreakLength? text).isNone
  let place ← Reader.here
  let content ← Reader.take (place.rest.takeWhile (· != '|')).length
  return String.ofList (Text.trimEnd (Text.trimStart content))

/-- The cells of a row of a table. -/
def tableRow : Reader (List String) := do
  let cells ← Reader.many do
    indent
    cell
  indent
  Reader.exactly ['|']
  indent
  lineEnd
  return cells

/-- Cut all rows to the width of the first; there is no table if a row is
shorter. -/
def evenRows? (rows : List (List String)) : Option (List (List String)) := do
  let first ← rows.head?
  guard (rows.all (first.length ≤ ·.length))
  return rows.map (·.take first.length)

/-- A table; its rows are located on consecutive lines. -/
def table : Reader (StepTable Unit) := do
  indent
  let start ← Reader.here
  let rows ← Reader.many do
    indent
    tableRow
  let even ← evenRows? rows
  return {
    location := start.location
    rows := even.mapIdx fun index cells =>
      { id := ()
        location :=
          { line := start.line + index, column := some start.column }
        cells } }

/-! ## Steps -/

/-- The keyword of a step with the kind of the step. -/
def stepKeyword (dialect : Dialect) (previous : Option StepKind) :
    Reader (String × StepKind) :=
  ((·, .context)) <$> keyword dialect.given <|>
  ((·, .action)) <$> keyword dialect.when <|>
  ((·, .outcome)) <$> keyword dialect.then' <|> do
    let found ← keyword dialect.conjunction
    let kind ← previous
    return (found, kind)

/-- A step with its arguments. -/
def step (dialect : Dialect) (previous : Option StepKind) :
    Reader (Step Unit) := do
  indent
  comments
  let start ← Reader.here
  let (keyword, kind) ← stepKeyword dialect previous
  indent
  let text ← restOfLine
  lineEnd
  indent
  let content ← Reader.optionally docString
  let table ← Reader.optionally table
  return {
    id := ()
    location := start.location
    keyword
    kind
    text := trimmedEnd text
    docString := content.map fun content =>
      { location :=
          { line := start.line + 1, column := some start.column }
        content }
    table }

/-- The kind of the last of some steps, or the kind before them. -/
def lastKind (previous : Option StepKind) (steps : List (Step Unit)) :
    Option StepKind :=
  match steps.getLast? with
  | some last => some last.kind
  | none => previous

/-- The steps that follow each other. -/
def steps (dialect : Dialect) (previous : Option StepKind) (place : Place) :
    Option (List (Step Unit) × Place) :=
  match step dialect previous place with
  | none => some ([], place)
  | some (first, behind) =>
      if behind.rest.length < place.rest.length then
        (steps dialect (some first.kind) behind).map fun (others, last) =>
          (first :: others, last)
      else
        some ([], place)
termination_by place.rest.length

/-! ## Backgrounds, scenarios and rules -/

/-- A background. -/
def background (dialect : Dialect) (previous : Option StepKind) :
    Reader (Background Unit) := do
  indent
  let start ← Reader.here
  let keyword ← keyword dialect.background
  let _ ← title
  let _ ← description dialect.afterBackground
  let steps ← steps dialect previous
  return { id := (), location := start.location, keyword, steps }

/-- Examples with their table. -/
def examples (dialect : Dialect) : Reader (Examples Unit) := do
  indent
  let tags ← tagNames
  indent
  let start ← Reader.here
  let keyword ← keyword dialect.examples
  let _ ← title
  let _ ← description dialect.afterExamples
  let table ← Reader.optionally table
  let rows := (table.map (·.rows)).getD []
  return {
    id := ()
    location := start.location
    tags := tagsAbove tags start
    keyword
    header := rows.head?
    body := rows.drop 1 }

/-- The keyword of a scenario, which a colon has to follow. -/
def scenarioKeyword (dialect : Dialect) : Reader String := do
  let found ← keyword dialect.outline <|> keyword dialect.scenario
  Reader.check (·.head? == some ':')
  return found

/-- A scenario with its examples. -/
def scenario (dialect : Dialect) (previous : Option StepKind) :
    Reader (Scenario Unit) := do
  indent
  let tags ← tagNames
  indent
  let start ← Reader.here
  let keyword ← scenarioKeyword dialect
  let name ← title
  let description ← description dialect.afterScenario
  let steps ← steps dialect previous
  let examples ← Reader.many (examples dialect)
  return {
    id := ()
    location := start.location
    tags := tagsAbove tags start
    keyword, name, description, steps, examples }

/-- The scenarios that follow each other. -/
def scenarios (dialect : Dialect) (previous : Option StepKind)
    (place : Place) : Option (List (Scenario Unit) × Place) :=
  match scenario dialect previous place with
  | none => some ([], place)
  | some (first, behind) =>
      if behind.rest.length < place.rest.length then
        (scenarios dialect (lastKind previous first.steps) behind).map
          fun (others, last) => (first :: others, last)
      else
        some ([], place)
termination_by place.rest.length

/-- The kind of the last step of a background and some scenarios. -/
def lastKindOf (previous : Option StepKind)
    (background : Option (Background Unit))
    (scenarios : List (Scenario Unit)) : Option StepKind :=
  lastKind previous
    ((background.map (·.steps)).getD [] ++ scenarios.flatMap (·.steps))

/-- A rule, with the kind of the last step. -/
def rule (dialect : Dialect) (previous : Option StepKind) :
    Reader (Rule Unit × Option StepKind) := do
  indent
  let tags ← tagNames
  indent
  let start ← Reader.here
  let keyword ← keyword dialect.rule
  let name ← title
  let description ← description dialect.afterRule
  let background ← Reader.optionally (background dialect previous)
  let scenarios ← scenarios dialect (lastKindOf previous background [])
  let rule : Rule Unit := {
    id := ()
    location := start.location
    tags := tagsAbove tags start
    keyword, name, description
    children :=
      background.toList.map .background ++ scenarios.map .scenario }
  return (rule, lastKindOf previous background scenarios)

/-- The rules that follow each other. -/
def rules (dialect : Dialect) (previous : Option StepKind) (place : Place) :
    Option (List (Rule Unit) × Place) :=
  match rule dialect previous place with
  | none => some ([], place)
  | some ((first, kind), behind) =>
      if behind.rest.length < place.rest.length then
        (rules dialect kind behind).map fun (others, last) =>
          (first :: others, last)
      else
        some ([], place)
termination_by place.rest.length

/-! ## Features -/

/-- The line that names the language of the keywords, which is English where
there is no such line. -/
def languageLine (dialect? : String → Option Dialect) : Reader Dialect := do
  let place ← Reader.here
  let directive := "# language: ".toList
  if directive.isPrefixOf place.rest then
    Reader.skip directive.length
    let name ← restOfLine
    let dialect ← dialect? (String.ofList name)
    lineBreak
    return dialect
  else return .english

/-- A feature. -/
def feature (dialect? : String → Option Dialect) :
    Reader (Feature Unit) := do
  indent
  let dialect ← languageLine dialect?
  let _ ← Reader.many lineBreak
  comments
  let tags ← tagNames
  let _ ← Reader.many lineBreak
  let start ← Reader.here
  let keyword ← keyword dialect.feature
  let name ← title
  let description ← description dialect.afterFeature
  let background ← Reader.optionally (background dialect none)
  let scenarios ← scenarios dialect (lastKindOf none background [])
  let rules ← rules dialect (lastKindOf none background scenarios)
  return {
    location := start.location
    tags := tagsAbove tags start
    keyword, name, description
    children := background.toList.map .background ++
      scenarios.map .scenario ++ rules.map .rule }

/-- The feature that a text holds, if the whole text is a feature. -/
def read? (dialect? : String → Option Dialect) (text : String) :
    Option (Feature Unit) := do
  let (found, behind) ← feature dialect? { rest := text.toList }
  guard behind.rest.isEmpty
  return found

instance : FeatureSyntax := ⟨read? Dialect.named?⟩

end ScenarioRunner.FeatureText
