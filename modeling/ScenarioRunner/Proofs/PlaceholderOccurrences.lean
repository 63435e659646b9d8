import Mathlib.Data.List.TakeWhile
import ScenarioRunner.Proofs.PickleLookup

/-!
# Placeholders within any text

A placeholder is found by its opening bracket, behind which its name must go on
without a blank up to the closing one.  So a bracket in front of a placeholder
may swallow it; if every bracket in front is closed, by a blank or by `>`, then
the placeholder is replaced, whatever else stands before or behind it.

The main statement is `Document.outlines_filled`.
-/

namespace ScenarioRunner

namespace Placeholder

/-! ## Texts whose brackets are closed -/

/-- Behind each `<` there is a character that no name has. -/
def Closed (text : List Char) : Prop :=
  ∀ behind, '<' :: behind <:+ text →
    ∃ char ∈ behind, isNameCharacter char = false

theorem Closed.suffix {text rest : List Char} (closed : Closed text)
    (ends : rest <:+ text) : Closed rest :=
  fun behind opened => closed behind (opened.trans ends)

/-- What is behind the end of a name does not matter to it. -/
theorem name?_append {text : List Char}
    (ended : ∃ char ∈ text, isNameCharacter char = false)
    (rest : List Char) :
    name? (text ++ rest) =
      (name? text).map fun found => (found.1, found.2 ++ rest) := by
  obtain ⟨char, member, other⟩ := ended
  have remains : text.dropWhile isNameCharacter ≠ [] := by
    intro none
    rw [List.dropWhile_eq_nil_iff] at none
    rw [none char member] at other
    cases other
  obtain ⟨last, behind, dropped⟩ := List.exists_cons_of_ne_nil remains
  have shorter :
      (text.takeWhile isNameCharacter).length ≠ text.length := by
    have whole := congrArg List.length (List.takeWhile_append_dropWhile
      (p := isNameCharacter) (l := text))
    rw [dropped, List.length_append, List.length_cons] at whole
    omega
  rw [name?, name?, List.takeWhile_append, if_neg shorter,
    List.dropWhile_append, dropped, List.isEmpty_cons,
    if_neg Bool.false_ne_true, List.cons_append]
  cases text.takeWhile isNameCharacter with
  | nil => rfl
  | cons first others =>
      by_cases ends : last = '>'
      · rw [ends]
        rfl
      · simp [ends]

theorem replaceIn_open (values : Values) (text : List Char) :
    replaceIn values ('<' :: text) =
      match name? text with
      | some (name, rest) =>
          (match value? values (String.ofList name) with
            | some value => value.toList
            | none => '<' :: name ++ ['>']) ++ replaceIn values rest
      | none => '<' :: replaceIn values text := by
  rw [replaceIn]
  split
  · rename_i name rest found
    cases known : value? values (String.ofList name) <;> simp [found, known]
  · rename_i none
    simp [none]

/-- Behind closed brackets the placeholders are replaced as in a text of its
own. -/
theorem replaceIn_append (values : Values) {text : List Char}
    (closed : Closed text) (rest : List Char) :
    replaceIn values (text ++ rest) =
      replaceIn values text ++ replaceIn values rest := by
  fun_induction replaceIn values text with
  | case1 => rfl
  | case2 text name behind found shorter shown ih =>
      have ends : behind <:+ '<' :: text :=
        ⟨'<' :: name ++ ['>'], by simp [eq_of_name? found]⟩
      rw [List.cons_append, replaceIn_open,
        name?_append (closed text (List.suffix_refl _)), found]
      simp only [Option.map_some]
      rw [ih (closed.suffix ends)]
      exact (List.append_assoc _ _ _).symm
  | case3 text none ih =>
      rw [List.cons_append, replaceIn_open,
        name?_append (closed text (List.suffix_refl _)), none]
      simp only [Option.map_none]
      rw [ih (closed.suffix (List.suffix_cons _ _)), List.cons_append]
  | case4 char text plain ih =>
      rw [List.cons_append, replaceIn_letter values (fun same => plain same),
        ih (closed.suffix (List.suffix_cons _ _)), List.cons_append]

/-! ## Occurrences -/

/-- What can stand between the brackets of a placeholder. -/
structure IsName (name : String) : Prop where
  nonempty : name ≠ ""
  named : ∀ char ∈ name.toList, isNameCharacter char = true

/-- A placeholder behind closed brackets is replaced by its value. -/
theorem replace_occurrence {values : Values} {name value : String}
    (legal : IsName name) (found : value? values name = some value)
    {before : String} (closed : Closed before.toList) (after : String) :
    replace values (before ++ "<" ++ name ++ ">" ++ after) =
      replace values before ++ value ++ replace values after := by
  have written :
      (before ++ "<" ++ name ++ ">" ++ after).toList =
        before.toList ++ ('<' :: name.toList ++ '>' :: after.toList) := by
    simp
  have some : name.toList ≠ [] := by
    simpa using legal.nonempty
  rw [replace, written, replaceIn_append values closed,
    replaceIn_placeholder values some legal.named, Piece.filled,
    String.ofList_toList, found, String.ofList_append, String.ofList_append,
    String.ofList_toList, String.append_assoc]
  rfl

/-- With distinct names in the header, a value is the cell below its name. -/
theorem value?_zip_of_nodup {header row : List String}
    (distinct : header.Nodup) {column : Nat} {name value : String}
    (title : header[column]? = some name)
    (cell : row[column]? = some value) :
    value? (header.zip row) name = some value := by
  rw [value?_zip_eq_some_iff]
  refine ⟨column, title, cell, ?_⟩
  intro later behind again
  obtain ⟨bound, -⟩ := List.getElem?_eq_some_iff.mp title
  have same :=
    (List.getElem?_inj bound distinct).mp (title.trans again.symm)
  exact absurd same (Nat.ne_of_lt behind)

end Placeholder

/-! ## Outlines -/

/-- What a text becomes in a pickle that is made for a row: every placeholder
with a name of the header is replaced by the cell below it, if the brackets in
front of it are closed. -/
def ExampleRow.Fills (row : ExampleRow) (text made : String) : Prop :=
  ∀ (column : Nat) (name cell : String),
    row.header.cells[column]? = some name →
    row.values.cells[column]? = some cell →
    Placeholder.IsName name →
    ∀ before after,
      text = before ++ "<" ++ name ++ ">" ++ after →
      Placeholder.Closed before.toList →
      made =
        Placeholder.replace (row.header.cells.zip row.values.cells) before ++
          cell ++
          Placeholder.replace (row.header.cells.zip row.values.cells) after

/-- A step is made for a row. -/
structure Step.FilledFrom (row : ExampleRow) (step : Step Nat)
    (made : PickleStep Nat) : Prop where
  text : row.Fills step.text made.text
  docString : ∀ written ∈ step.docString,
    ∃ argument content,
      made.argument = some argument ∧ argument.docString = some content ∧
        row.Fills written.content content
  table : ∀ written ∈ step.table,
    ∃ argument lines,
      made.argument = some argument ∧ argument.table = some lines ∧
        List.Forall₂ (fun line => List.Forall₂ row.Fills line.cells)
          written.rows lines

/-- A pickle is made for a row of an outline: its name and the steps behind
those of the backgrounds. -/
structure Scenario.FilledFrom (scenario : Scenario Nat) (row : ExampleRow)
    (pickle : Pickle Nat) : Prop where
  nodeIds : pickle.nodeIds = [scenario.id, row.values.id]
  name : row.Fills scenario.name pickle.name
  steps : ∃ before own,
    pickle.steps = before ++ own ∧
      List.Forall₂ (Step.FilledFrom row) scenario.steps own

section Rows

variable {row : ExampleRow}

/-- Replacing placeholders fills a text. -/
theorem ExampleRow.fills_replace (distinct : row.header.cells.Nodup)
    (text : String) :
    row.Fills text
      (Placeholder.replace (row.header.cells.zip row.values.cells) text) := by
  intro column name cell title value legal before after occurs closed
  have found := Placeholder.value?_zip_of_nodup distinct title value
  rw [occurs, Placeholder.replace_occurrence legal found closed]

theorem Step.Becomes.filledFrom (distinct : row.header.cells.Nodup)
    {step : Step Nat} {made : PickleStep Nat}
    (becomes : step.Becomes
      (Placeholder.replace (row.header.cells.zip row.values.cells))
      (some row.values.id) made) :
    step.FilledFrom row made where
  text := by
    rw [becomes.text]
    exact row.fills_replace distinct step.text
  docString := by
    intro written shown
    rw [becomes.argument, Step.argument, shown]
    exact ⟨_, _, rfl, rfl, row.fills_replace distinct _⟩
  table := by
    intro written shown
    have argument : ∃ argument, made.argument = some argument ∧
        argument.table = some (written.rows.map fun line =>
          line.cells.map (Placeholder.replace
            (row.header.cells.zip row.values.cells))) := by
      rw [becomes.argument, Step.argument, shown]
      cases step.docString <;> exact ⟨_, rfl, rfl⟩
    obtain ⟨argument, given, lines⟩ := argument
    refine ⟨argument, _, given, lines, ?_⟩
    rw [List.forall₂_map_right_iff, List.forall₂_same]
    intro line _
    rw [List.forall₂_map_right_iff, List.forall₂_same]
    exact fun cell _ => row.fills_replace distinct cell

theorem PickleOrigin.Gives.filledFrom (distinct : row.header.cells.Nodup)
    {around : Surroundings} {scenario : Scenario Nat} {pickle : Pickle Nat}
    (given : PickleOrigin.Gives { around, scenario, row := some row }
      pickle) :
    scenario.FilledFrom row pickle where
  nodeIds := given.nodeIds
  name := by
    rw [given.name]
    exact row.fills_replace distinct scenario.name
  steps := by
    obtain ⟨before, own, steps, -, becomes⟩ := given.steps
    refine ⟨before, own, steps, becomes.imp ?_⟩
    intro step made becomes
    exact becomes.filledFrom distinct

end Rows

/--
The pickles of a document are those of its scenarios, one group each.  The
group of an outline has one pickle for each row of its examples, in the order of
the text, and these are filled from the rows of headers with distinct names.
-/
theorem Document.outlines_filled (document : Document Nat) (next : Nat) :
    ∃ groups,
      groups.flatten = (document.pickles.run next).1 ∧
        List.Forall₂
          (fun scenario pickles =>
            scenario.examples ≠ [] →
              List.Forall₂
                (fun row pickle =>
                  row.header.cells.Nodup → scenario.FilledFrom row pickle)
                (scenario.examples.flatMap Examples.rows) pickles)
          document.scenarios groups := by
  obtain ⟨groups, made, whole⟩ := document.pickles_grouped next
  refine ⟨groups, whole, made.imp ?_⟩
  rintro scenario pickles ⟨around, given⟩ outline
  rw [Scenario.origins_of_outline outline, List.forall₂_map_left_iff] at given
  refine given.imp ?_
  intro row pickle given distinct
  exact given.filledFrom distinct

namespace Sample

/-- An outline with one row of examples and a step that is called as it is. -/
def outline (name : String) (header cells : List String) : Document Nat where
  uri := "a.feature"
  feature := some
    { location := ⟨1, none⟩
      tags := []
      keyword := "Feature"
      name := "A"
      description := ""
      children :=
        [ .scenario
            { id := 0
              location := ⟨2, none⟩
              tags := []
              keyword := "Scenario Outline"
              name
              description := ""
              steps := [step 1 name]
              examples :=
                [ { id := 2
                    location := ⟨4, none⟩
                    tags := []
                    keyword := "Examples"
                    header := some (row 3 header)
                    body := [row 4 cells] } ] } ] }

/-- Brackets that are closed by a blank or by another placeholder swallow
nothing. -/
example :
    ((outline "1 < 2 <a><b>> <c" ["a", "b", "c"] ["<b>", "x", "y"]).pickles.run
        5).1.map (·.name) = ["1 < 2 <b>x> <c"] := by
  decide +kernel

/-- A name with a blank or with a closing bracket is no placeholder, and a
bracket right before a placeholder becomes part of its name. -/
theorem outline_kept :
    ["user name", "a>b", "b"].Nodup ∧
      ["x", "y", "z"].length = ["user name", "a>b", "b"].length ∧
      ((outline "<user name> <a>b> 1<<b>" ["user name", "a>b", "b"]
          ["x", "y", "z"]).pickles.run 5).1.map
        (fun pickle => (pickle.name, pickle.steps.map (·.text))) =
          [("<user name> <a>b> 1<<b>", ["<user name> <a>b> 1<<b>"])] := by
  decide +kernel

end Sample

end ScenarioRunner
