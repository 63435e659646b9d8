import ScenarioRunner.Text.Blank

/-!
# Placeholders

A placeholder is a name between `<` and `>`; the name has at least one
character and neither blanks nor a `>`.  A placeholder whose name has a value
is replaced by the value; any other is kept as it is.
-/

namespace ScenarioRunner.Placeholder

/-- The values of placeholders by their names; of several values for one name
the last counts. -/
abbrev Values := List (String × String)

/-- The value of a name. -/
def value? (values : Values) (name : String) : Option String :=
  values.reverse.lookup name

/-- The characters of a name. -/
def isNameCharacter (char : Char) : Bool :=
  char != '>' && !Text.isBlank char

/-- The name of the placeholder whose opening bracket has just been read, and
the text behind the placeholder. -/
def name? (text : List Char) : Option (List Char × List Char) :=
  match text.takeWhile isNameCharacter, text.dropWhile isNameCharacter with
  | first :: others, '>' :: rest => some (first :: others, rest)
  | _, _ => none

theorem length_of_name? {text name rest : List Char}
    (found : name? text = some (name, rest)) : rest.length < text.length := by
  unfold name? at found
  split at found
  · rename_i first others behind taken dropped
    obtain ⟨-, rfl⟩ := Prod.mk.inj (Option.some.inj found)
    have whole := List.takeWhile_append_dropWhile
      (p := isNameCharacter) (l := text)
    rw [taken, dropped] at whole
    rw [← whole]
    simp
    omega
  · simp at found

/-- Replace the placeholders of a text, from left to right. -/
def replaceIn (values : Values) : List Char → List Char
  | [] => []
  | '<' :: text =>
      match found : name? text with
      | some (name, rest) =>
          have := length_of_name? found
          let shown :=
            match value? values (String.ofList name) with
            | some value => value.toList
            | none => '<' :: name ++ ['>']
          shown ++ replaceIn values rest
      | none => '<' :: replaceIn values text
  | char :: text => char :: replaceIn values text
termination_by text => text.length
decreasing_by all_goals simp_all; try omega

/-- A text with values in place of placeholders. -/
def replace (values : Values) (text : String) : String :=
  String.ofList (replaceIn values text.toList)

end ScenarioRunner.Placeholder
