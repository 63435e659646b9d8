import Mathlib.Data.List.Basic
import ScenarioRunner.Step.DataTable

/-!
# Transposed tables

If all rows of a table have the same width, then each column of it has a cell
in every row.  So no cell is left out when rows and columns are exchanged, and
to exchange them again gives the table back.

The main statement is `DataTable.transpose_exchanges`.
-/

namespace ScenarioRunner.DataTable

variable {table : DataTable} {width : Nat}

/-- The cell in a row and a column, if there is one. -/
def cell? (table : DataTable) (row column : Nat) : Option String :=
  table.raw[row]?.bind (·[column]?)

/-- The cells of a column in the rows that are long enough. -/
def column (table : DataTable) (index : Nat) : List String :=
  table.raw.filterMap (·[index]?)

/-- A table has rows and columns, and all rows are of one width. -/
structure IsRectangle (table : DataTable) (width : Nat) : Prop where
  hasRows : table.raw ≠ []
  hasColumns : 1 ≤ width
  even : ∀ row ∈ table.raw, row.length = width

/-- Tables of as many rows are the same if their cells are. -/
theorem ext_cells {other : DataTable}
    (height : table.raw.length = other.raw.length)
    (cells : ∀ row column, table.cell? row column = other.cell? row column) :
    table = other := by
  have rows : table.raw = other.raw := by
    refine List.ext_getElem height fun row inside otherInside => ?_
    refine List.ext_getElem? fun column => ?_
    have own := cells row column
    rwa [cell?, cell?, List.getElem?_eq_getElem inside,
      List.getElem?_eq_getElem otherInside] at own
  cases table
  cases other
  exact congrArg mk rows

/-! ## Columns -/

section Column

variable {index : Nat} (long : ∀ row ∈ table.raw, index < row.length)

include long

/-- A column with a cell in each row is read off the rows. -/
theorem map_some_column :
    (table.column index).map some = table.raw.map (·[index]?) := by
  unfold column
  generalize table.raw = rows at long
  induction rows with
  | nil => rfl
  | cons row others ih =>
      rw [List.forall_mem_cons] at long
      have present : row[index]? = some row[index] :=
        List.getElem?_eq_getElem long.1
      rw [List.filterMap_cons_some (f := (·[index]?)) present, List.map_cons,
        List.map_cons, ih long.2, present]

theorem length_column :
    (table.column index).length = table.raw.length := by
  have lengths := congrArg List.length (map_some_column long)
  rwa [List.length_map, List.length_map] at lengths

theorem getElem?_column (row : Nat) :
    (table.column index)[row]? = table.cell? row index := by
  have cells := congrArg (·[row]?.bind id) (map_some_column long)
  simpa [cell?, Option.bind_map, Function.comp_def] using cells

end Column

namespace IsRectangle

variable (rectangle : table.IsRectangle width)

include rectangle

theorem raw_transpose :
    table.transpose.raw = (List.range width).map table.column := by
  have first : (table.raw.headD []).length = width := by
    obtain ⟨row, others, rows⟩ := List.exists_cons_of_ne_nil rectangle.hasRows
    rw [rows]
    exact rectangle.even row (rows ▸ List.mem_cons_self)
  rw [transpose, first]
  rfl

/-- Up to the last column each row has a cell. -/
theorem long {index : Nat} (inside : index < width) :
    ∀ row ∈ table.raw, index < row.length :=
  fun row member => (rectangle.even row member).symm ▸ inside

/-- Behind the last column there are no cells. -/
theorem cell?_eq_none {index : Nat} (outside : width ≤ index) (row : Nat) :
    table.cell? row index = none := by
  rw [cell?, Option.bind_eq_none_iff]
  intro cells found
  have own := rectangle.even cells (List.mem_of_getElem? found)
  exact List.getElem?_eq_none (own ▸ outside)

/-! ## Rows and columns exchanged -/

theorem length_transpose : table.transpose.raw.length = width := by
  rw [rectangle.raw_transpose, List.length_map, List.length_range]

theorem transpose : table.transpose.IsRectangle table.raw.length where
  hasRows := by
    rw [← List.length_pos_iff, rectangle.length_transpose]
    exact rectangle.hasColumns
  hasColumns := List.length_pos_iff.mpr rectangle.hasRows
  even := by
    rw [rectangle.raw_transpose, List.forall_mem_map]
    intro index member
    exact length_column (rectangle.long (List.mem_range.mp member))

theorem cell?_transpose (row index : Nat) :
    table.transpose.cell? index row = table.cell? row index := by
  rw [cell?, rectangle.raw_transpose, List.getElem?_map]
  by_cases inside : index < width
  · rw [List.getElem?_range inside]
    exact getElem?_column (rectangle.long inside) row
  · have outside := Nat.le_of_not_lt inside
    have absent : (List.range width)[index]? = none :=
      List.getElem?_eq_none (List.length_range.symm ▸ outside)
    rw [absent, rectangle.cell?_eq_none outside]
    rfl

/-- Rows and columns that are exchanged twice are in their places again. -/
theorem transpose_transpose : table.transpose.transpose = table := by
  have exchanged := rectangle.transpose
  refine ext_cells exchanged.length_transpose fun row index => ?_
  rw [exchanged.cell?_transpose, rectangle.cell?_transpose]

end IsRectangle

/--
If a table has rows and columns and all its rows are of one width, then the
table with rows and columns exchanged has a row for each column, each as wide
as there were rows; its cells are those of the table, with row and column
exchanged, and to exchange them again gives the table back.
-/
theorem transpose_exchanges (rectangle : table.IsRectangle width) :
    table.transpose.raw.length = width ∧
      (∀ row ∈ table.transpose.raw, row.length = table.raw.length) ∧
      (∀ row index, table.transpose.cell? index row = table.cell? row index) ∧
      table.transpose.transpose = table :=
  ⟨rectangle.length_transpose, rectangle.transpose.even,
    rectangle.cell?_transpose, rectangle.transpose_transpose⟩

end ScenarioRunner.DataTable

namespace ScenarioRunner.Sample

/-- A table of two rows and three columns. -/
def ages : DataTable :=
  ⟨[["name", "Alice", "Bob"], ["age", "30", "25"]]⟩

theorem ages_exchanges :
    ages.IsRectangle 3 ∧
      ages.transpose.raw =
        [["name", "age"], ["Alice", "30"], ["Bob", "25"]] ∧
      ages.transpose.transpose = ages := by
  have rectangle : ages.IsRectangle 3 := ⟨by decide, by decide, by decide⟩
  obtain ⟨-, -, -, again⟩ := DataTable.transpose_exchanges rectangle
  exact ⟨rectangle, by decide, again⟩

/-- A cell that has none above it in the first row is lost. -/
example :
    (DataTable.mk [["a"], ["b", "c"]]).transpose.transpose.raw =
      [["a"], ["b"]] := by
  decide

end ScenarioRunner.Sample
