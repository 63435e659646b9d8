/-!
# Searching in texts

Whether one text occurs in another, and putting something else in its place.
-/

namespace ScenarioRunner.Text

/-- Whether a pattern occurs in a text. -/
def occursIn (pattern : List Char) : List Char → Bool
  | [] => pattern.isEmpty
  | char :: rest => pattern.isPrefixOf (char :: rest) || occursIn pattern rest

/-- Whether a text contains another. -/
def contains (text pattern : String) : Bool :=
  occursIn pattern.toList text.toList

/-- Replace a pattern wherever it occurs, from left to right, once a number of
characters is dropped.  The pattern is not empty. -/
def replaceFrom (pattern replacement : List Char) :
    Nat → List Char → List Char
  | _, [] => []
  | skipped + 1, _ :: rest => replaceFrom pattern replacement skipped rest
  | 0, char :: rest =>
      if pattern.isPrefixOf (char :: rest) then
        replacement ++ replaceFrom pattern replacement (pattern.length - 1) rest
      else char :: replaceFrom pattern replacement 0 rest

/-- A text with a replacement for each occurrence of a pattern that is not
empty. -/
def replace (pattern replacement text : String) : String :=
  String.ofList
    (replaceFrom pattern.toList replacement.toList 0 text.toList)

theorem occursIn_iff (pattern text : List Char) :
    occursIn pattern text = true ↔ pattern <:+: text := by
  induction text with
  | nil => simp [occursIn]
  | cons char rest ih =>
      simp [occursIn, ih, List.infix_cons_iff]

end ScenarioRunner.Text
