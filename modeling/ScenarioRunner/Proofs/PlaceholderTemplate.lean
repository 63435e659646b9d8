import Mathlib.Data.List.Basic
import ScenarioRunner.Pickle.Placeholder

/-!
# Templates and their values

A template is a text that is put together from pieces: letters other than `<`,
and placeholders.  Replacing the placeholders of its text keeps the letters and
puts the value of each placeholder in its place, where it is not looked at
again.  Without values every text stays as it is.

The values of a row of examples belong to the columns of the table.  Of several
columns with one name the last counts that has a cell in the row.
-/

namespace ScenarioRunner.Placeholder

/-! ## Values -/

@[simp]
theorem value?_nil (name : String) : value? [] name = none := rfl

/-- A value is that of the last pair with its name. -/
theorem value?_eq_some_iff {values : Values} {name value : String} :
    value? values name = some value ↔
      ∃ before behind,
        values = before ++ (name, value) :: behind ∧
          ∀ pair ∈ behind, pair.1 ≠ name := by
  rw [value?, List.lookup_eq_some_iff]
  constructor
  · rintro ⟨early, late, reversed, others⟩
    refine ⟨late.reverse, early.reverse, ?_, ?_⟩
    · simpa using congrArg List.reverse reversed
    · intro pair member same
      simpa [same] using others pair (List.mem_reverse.mp member)
  · rintro ⟨before, behind, rfl, others⟩
    refine ⟨behind.reverse, before.reverse, by simp, ?_⟩
    intro pair member
    simpa using (others pair (List.mem_reverse.mp member)).symm

/-- A cell is the last that a row has below a name of the header. -/
def IsCell (header row : List String) (name value : String) : Prop :=
  ∃ column : Nat,
    header[column]? = some name ∧ row[column]? = some value ∧
      ∀ later, column < later → header[later]? = some name →
        row[later]? = none

/-- The value of a name is the last cell that the row has below it. -/
theorem value?_zip_eq_some_iff (header row : List String)
    (name value : String) :
    value? (header.zip row) name = some value ↔
      IsCell header row name value := by
  rw [value?_eq_some_iff]
  constructor
  · rintro ⟨before, behind, split, others⟩
    have here : (header.zip row)[before.length]? = some (name, value) := by
      rw [split]
      simp
    obtain ⟨title, cell⟩ := List.getElem?_zip_eq_some.mp here
    refine ⟨before.length, title, cell, ?_⟩
    intro later behindHere titleLater
    cases cellLater : row[later]? with
    | none => rfl
    | some other =>
        have pair : (header.zip row)[later]? = some (name, other) :=
          List.getElem?_zip_eq_some.mpr ⟨titleLater, cellLater⟩
        rw [split, List.getElem?_append_right (by omega),
          List.getElem?_cons,
          if_neg (Nat.sub_ne_zero_of_lt behindHere)] at pair
        exact absurd rfl (others _ (List.mem_of_getElem? pair))
  · rintro ⟨column, title, cell, last⟩
    have here : (header.zip row)[column]? = some (name, value) :=
      List.getElem?_zip_eq_some.mpr ⟨title, cell⟩
    obtain ⟨bound, found⟩ := List.getElem?_eq_some_iff.mp here
    refine
      ⟨(header.zip row).take column, (header.zip row).drop (column + 1),
        ?_, ?_⟩
    · rw [← found, List.getElem_cons_drop, List.take_append_drop]
    · intro pair member same
      obtain ⟨index, behind⟩ := List.getElem?_of_mem member
      rw [List.getElem?_drop] at behind
      obtain ⟨titleLater, cellLater⟩ := List.getElem?_zip_eq_some.mp behind
      rw [same] at titleLater
      rw [last _ (by omega) titleLater] at cellLater
      cases cellLater

/-! ## Pieces -/

/-- A piece of a template. -/
inductive Piece where
  /-- Letters, none of which opens a placeholder. -/
  | letters (text : List Char) (plain : '<' ∉ text)
  /-- A placeholder with its name. -/
  | placeholder (name : List Char) (some : name ≠ [])
      (named : ∀ char ∈ name, isNameCharacter char = true)

/-- A text that is put together from pieces. -/
abbrev Template := List Piece

namespace Piece

/-- A piece as it is written. -/
def written : Piece → List Char
  | .letters text _ => text
  | .placeholder name _ _ => '<' :: name ++ ['>']

/-- A piece with values in place of placeholders. -/
def filled (values : Values) : Piece → List Char
  | .letters text _ => text
  | .placeholder name _ _ =>
      match value? values (String.ofList name) with
      | some value => value.toList
      | none => '<' :: name ++ ['>']

end Piece

namespace Template

/-- A template as it is written. -/
def text (template : Template) : String :=
  String.ofList (template.flatMap Piece.written)

/-- A template with values in place of placeholders. -/
def filled (template : Template) (values : Values) : String :=
  String.ofList (template.flatMap (Piece.filled values))

end Template

/-! ## Replacing -/

theorem name?_placeholder {name : List Char} (some : name ≠ [])
    (named : ∀ char ∈ name, isNameCharacter char = true)
    (rest : List Char) :
    name? (name ++ '>' :: rest) = Option.some (name, rest) := by
  obtain ⟨first, others, rfl⟩ := List.exists_cons_of_ne_nil some
  have taken :
      ((first :: others) ++ '>' :: rest).takeWhile isNameCharacter =
        first :: others := by
    rw [List.takeWhile_append_of_pos named]
    simp [isNameCharacter]
  have dropped :
      ((first :: others) ++ '>' :: rest).dropWhile isNameCharacter =
        '>' :: rest := by
    rw [List.dropWhile_append_of_pos named]
    simp [isNameCharacter]
  simp only [name?, taken, dropped]

/-- A placeholder is its name between brackets, in front of what follows. -/
theorem eq_of_name? {text name rest : List Char}
    (found : name? text = some (name, rest)) : text = name ++ '>' :: rest := by
  unfold name? at found
  split at found
  · rename_i first others behind taken dropped
    obtain ⟨rfl, rfl⟩ := Prod.mk.inj (Option.some.inj found)
    rw [← taken, ← dropped, List.takeWhile_append_dropWhile]
  · cases found

theorem replaceIn_letter (values : Values) {char : Char}
    (plain : char ≠ '<') (text : List Char) :
    replaceIn values (char :: text) = char :: replaceIn values text := by
  rw [replaceIn]
  simpa using plain

theorem replaceIn_letters (values : Values) {letters : List Char}
    (plain : '<' ∉ letters) (text : List Char) :
    replaceIn values (letters ++ text) = letters ++ replaceIn values text := by
  induction letters with
  | nil => rfl
  | cons char others ih =>
      have own : char ≠ '<' :=
        fun same => plain (by simp [same])
      have rest : '<' ∉ others :=
        fun member => plain (List.mem_cons_of_mem char member)
      rw [List.cons_append, replaceIn_letter values own, ih rest]
      rfl

theorem replaceIn_placeholder (values : Values) {name : List Char}
    (some : name ≠ []) (named : ∀ char ∈ name, isNameCharacter char = true)
    (text : List Char) :
    replaceIn values ('<' :: name ++ '>' :: text) =
      (Piece.placeholder name some named).filled values ++
        replaceIn values text := by
  have found := name?_placeholder some named text
  rw [List.cons_append, replaceIn]
  split
  · rename_i other rest found'
    rw [found] at found'
    cases found'
    rfl
  · rename_i none
    rw [found] at none
    cases none

theorem replaceIn_written (values : Values) (piece : Piece)
    (text : List Char) :
    replaceIn values (piece.written ++ text) =
      piece.filled values ++ replaceIn values text := by
  cases piece with
  | letters letters plain => exact replaceIn_letters values plain text
  | placeholder name some named =>
      rw [← replaceIn_placeholder values some named text]
      simp [Piece.written]

/-- Replacing the placeholders of a template fills its pieces. -/
theorem replace_text (values : Values) (template : Template) :
    replace values template.text = template.filled values := by
  have pieces :
      replaceIn values (template.flatMap Piece.written) =
        template.flatMap (Piece.filled values) := by
    induction template with
    | nil => rw [List.flatMap_nil, replaceIn, List.flatMap_nil]
    | cons piece others ih =>
        rw [List.flatMap_cons, replaceIn_written, ih, List.flatMap_cons]
  rw [replace, Template.text, String.toList_ofList, pieces, Template.filled]

/-- Without values a text stays as it is. -/
theorem replaceIn_nil (text : List Char) : replaceIn [] text = text := by
  fun_induction replaceIn [] text with
  | case1 => rfl
  | case2 text name rest found shorter shown ih =>
      simp [shown, ih, eq_of_name? found]
  | case3 text none ih => rw [ih]
  | case4 char text plain ih => rw [ih]

theorem replace_nil (text : String) : replace [] text = text := by
  rw [replace, replaceIn_nil, String.ofList_toList]

end ScenarioRunner.Placeholder
