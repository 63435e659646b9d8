/-!
# Explaining a missing step definition

The text that tells where definitions were looked for: the templates, the
patterns they stand for, and the files that the patterns match.
-/

namespace ScenarioRunner

/-- Where step definitions were looked for. -/
structure SearchHints where
  templates : List String := []
  patterns : List String := []
  paths : List String := []
  deriving DecidableEq, Repr, Inhabited

namespace SearchHints

/-- The words by which a missing definition is recognised. -/
def missingSignature : String := "Step implementation missing"

/-- A text with a backslash before its first star. -/
def escapeStar : List Char → List Char
  | [] => []
  | '*' :: rest => '\\' :: '*' :: rest
  | char :: rest => char :: escapeStar rest

/-- A line for each item; an interactive reader would take a bare star for
markup. -/
def itemLines (interactive : Bool) (items : List String) : String :=
  "\n".intercalate (items.map fun item =>
    "  - " ++
      if interactive then String.ofList (escapeStar item.toList) else item)

/-- What to say about a step without a definition. -/
def explain (hints : SearchHints) (interactive : Bool) (text : String) :
    String :=
  s!"{missingSignature} for \"{text}\".\n\n" ++
    "We tried searching for files containing step definitions using the " ++
    "following search pattern templates:\n\n" ++
    itemLines interactive hints.templates ++
    "\n\nThese templates resolved to the following search patterns:\n\n" ++
    itemLines interactive hints.patterns ++ "\n\n" ++
    if hints.paths.isEmpty then
      "These patterns matched **no files** containing step definitions. " ++
        "This almost certainly means that you have misconfigured " ++
        "`stepDefinitions`."
    else
      "These patterns matched the following files:\n\n" ++
        itemLines interactive hints.paths ++
        "\n\nHowever, none of these files contained a step definition " ++
        s!"matching \"{text}\"."

end SearchHints

end ScenarioRunner
