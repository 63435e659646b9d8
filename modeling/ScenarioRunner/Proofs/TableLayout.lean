import Mathlib.Algebra.BigOperators.Group.List.Basic
import Mathlib.Algebra.GroupWithZero.Nat
import Mathlib.Data.List.Forall2
import ScenarioRunner.Console.Table
import ScenarioRunner.Proofs.JoinedLines
import ScenarioRunner.Proofs.MeasuredWidth

/-!
# Layout of tables

Between two borders of a table stand the fields of a row.  Read from top to
bottom, the fields of a column have the lines of the cell in it, in order and
without loss, and then nothing.  Each field is filled up with blanks to the
width of its column, which is that of the widest text in it, so all lines of a
table are equally wide.  This holds however texts are measured, as long as
blanks and the signs of borders take one column each.

The main statement is `Table.render_fills_columns`.
-/

namespace ScenarioRunner.Console

/-! ## Widths of columns -/

variable (measure : Measure)

/-- A number of columns that some texts fit in, and that one of them takes. -/
structure IsWidest (columns : Nat) (texts : List (List Char)) : Prop where
  taken : ∃ text ∈ texts, measure.width text = columns
  bound : ∀ text ∈ texts, measure.width text ≤ columns

/-- The widest of some texts is found from left to right. -/
theorem isWidest_foldl (first : List Char) (texts : List (List Char)) :
    IsWidest measure
      (texts.foldl (fun widest text => max widest (measure.width text))
        (measure.width first))
      (first :: texts) := by
  induction texts generalizing first with
  | nil =>
      exact ⟨⟨first, List.mem_cons_self, rfl⟩, by simp⟩
  | cons next texts ih =>
      rw [List.foldl_cons]
      rcases Nat.le_total (measure.width next) (measure.width first) with
        less | more
      · rw [Nat.max_eq_left less]
        obtain ⟨⟨text, among, taken⟩, bound⟩ := ih first
        refine ⟨⟨text, ?_, taken⟩, ?_⟩
        · rcases List.mem_cons.mp among with rfl | later
          · exact List.mem_cons_self
          · exact List.mem_cons_of_mem _ (List.mem_cons_of_mem _ later)
        · rw [List.forall_mem_cons] at bound ⊢
          exact ⟨bound.1, List.forall_mem_cons.mpr
            ⟨Nat.le_trans less bound.1, bound.2⟩⟩
      · rw [Nat.max_eq_right more]
        obtain ⟨⟨text, among, taken⟩, bound⟩ := ih next
        refine ⟨⟨text, List.mem_cons_of_mem _ among, taken⟩, ?_⟩
        exact List.forall_mem_cons.mpr
          ⟨Nat.le_trans more (bound next List.mem_cons_self), bound⟩

namespace Table

/-- What stands in a column: its name, and the lines of its cells. -/
def columnTexts (table : Table) (index : Nat) : List (List Char) :=
  (table.head.getD index "").toList ::
    table.rows.flatMap fun row => cellLines (row.getD index "")

variable {table : Table} {index own : Nat}

theorem length_widths (table : Table) :
    (table.widths measure.width).length = table.head.length := by
  rw [widths, List.length_map, List.length_zipIdx]

/-- A column is as wide as the widest text in it. -/
theorem isWidest_of_widths
    (known : (table.widths measure.width)[index]? = some own) :
    IsWidest measure own (table.columnTexts index) := by
  have inside : index < table.head.length := by
    rw [← length_widths measure]
    exact (List.getElem?_eq_some_iff.mp known).1
  have computed :
      columnWidth measure.width
          (measure.width (table.head.getD index "").toList)
          (table.rows.map fun row => row.getD index "") =
        own := by
    simpa [widths, List.getElem?_zipIdx, inside, List.getD_eq_getElem?_getD]
      using known
  rw [columnWidth, List.flatMap_map] at computed
  rw [← computed]
  exact isWidest_foldl measure _ _

/-- The lines of the cells of a row fit in columns, one for each cell. -/
def Fits (columns : List Nat) (row : List String) : Prop :=
  List.Forall₂
    (fun cell own => ∀ line ∈ cellLines cell, measure.width line ≤ own)
    row columns

/-- Cells fit if all their lines are among the texts of the columns. -/
theorem fits_widths {row : List String}
    (arity : row.length = table.head.length)
    (listed : ∀ index, ∀ line ∈ cellLines (row.getD index ""),
      line ∈ table.columnTexts index) :
    Fits measure (table.widths measure.width) row := by
  rw [Fits, List.forall₂_iff_get]
  refine ⟨arity.trans (length_widths measure table).symm, ?_⟩
  intro index inside within line shown
  have known :
      (table.widths measure.width)[index]? =
        some ((table.widths measure.width).get ⟨index, within⟩) :=
    List.getElem?_eq_getElem within
  apply (isWidest_of_widths measure known).bound
  apply listed
  rwa [List.getD_eq_getElem?_getD, List.getElem?_eq_getElem inside]

theorem fits_of_mem_rows {row : List String} (among : row ∈ table.rows)
    (arity : row.length = table.head.length) :
    Fits measure (table.widths measure.width) row := by
  apply fits_widths measure arity
  intro index line shown
  exact List.mem_cons_of_mem _ (List.mem_flatMap.mpr ⟨row, among, shown⟩)

/-- A text without line feeds is its only line, unless it is empty. -/
theorem cellLines_of_unbroken {name : String} (unbroken : '\n' ∉ name.toList) :
    cellLines name = if name.toList = [] then [] else [name.toList] := by
  split
  · rename_i empty
    rw [cellLines, empty]
    rfl
  · rename_i nonempty
    exact Text.lines_of_unbroken unbroken nonempty

theorem fits_head (single : ∀ name ∈ table.head, '\n' ∉ name.toList) :
    Fits measure (table.widths measure.width) table.head := by
  apply fits_widths measure rfl
  intro index line shown
  have unbroken : '\n' ∉ (table.head.getD index "").toList := by
    rw [List.getD_eq_getElem?_getD]
    cases known : table.head[index]? with
    | none => simp
    | some name => exact single name (List.mem_of_getElem? known)
  rw [cellLines_of_unbroken unbroken] at shown
  split at shown
  · cases shown
  · obtain rfl := List.mem_singleton.mp shown
    exact List.mem_cons_self

end Table

/-! ## Fields -/

/-- A text, filled up with blanks to so many columns, between two blanks.  The
text takes no more columns than that, so the blanks and the text add up. -/
structure Field (columns : Nat) (text : List Char) (field : String) :
    Prop where
  filled : ∃ blanks,
    measure.width text + blanks = columns ∧
      field.toList = ' ' :: (text ++ List.replicate blanks ' ') ++ [' ']
  measured : measure.width field.toList = columns + 2

variable {measure}

theorem Field.unbroken {columns : Nat} {text : List Char} {field : String}
    (filled : Field measure columns text field) (unbroken : '\n' ∉ text) :
    '\n' ∉ field.toList := by
  obtain ⟨⟨blanks, -, whole⟩, -⟩ := filled
  rw [whole]
  simp [unbroken]

namespace Table

theorem padded_field {columns : Nat} {text : List Char}
    (fits : measure.width text ≤ columns) :
    Field measure columns text (padded measure.width text columns) := by
  have blank : ' ' ∈ frameSigns := by decide
  have whole :
      (padded measure.width text columns).toList =
        ' ' :: (text ++ List.replicate (columns - measure.width text) ' ') ++
          [' '] :=
    String.toList_ofList
  refine ⟨⟨columns - measure.width text, Nat.add_sub_cancel' fits, whole⟩, ?_⟩
  rw [whole, measure.width_append_frame _ blank,
    measure.width_frame_cons blank, measure.width_append_replicate blank,
    measure.width_nil]
  omega

/-! ## Rows -/

/-- The largest number of lines that a cell of a row has. -/
def mostLines (row : List String) : Nat :=
  (row.map fun cell => (cellLines cell).length).foldr max 0

theorem height_eq (row : List String) : height row = max 1 (mostLines row) := by
  have larger (least : Nat) :
      row.foldl (fun highest cell => max highest (cellLines cell).length)
          least =
        max least (mostLines row) := by
    induction row generalizing least with
    | nil => exact (Nat.max_zero least).symm
    | cons cell row ih =>
        rw [List.foldl_cons, ih, Nat.max_assoc]
        rfl
  exact larger 1

theorem mostLines_le {row : List String} {bound : Nat}
    (few : ∀ cell ∈ row, (cellLines cell).length ≤ bound) :
    mostLines row ≤ bound := by
  induction row with
  | nil => exact Nat.zero_le _
  | cons cell row ih =>
      rw [List.forall_mem_cons] at few
      exact Nat.max_le.mpr ⟨few.1, ih few.2⟩

theorem length_cellLines_le {row : List String} {cell : String}
    (member : cell ∈ row) : (cellLines cell).length ≤ height row := by
  have most : (cellLines cell).length ≤ mostLines row := by
    induction row with
    | nil => cases member
    | cons first row ih =>
        rcases List.mem_cons.mp member with rfl | later
        · exact Nat.le_max_left _ _
        · exact Nat.le_trans (ih later) (Nat.le_max_right _ _)
  rw [height_eq]
  exact Nat.le_trans most (Nat.le_max_right _ _)

/-- The fields of a row, one list for each line of text: there are as many
lines as the cells need, and in each column the lines of the cell come first,
in order, with nothing behind them. -/
structure Block (measure : Measure) (columns : List Nat) (row : List String)
    (block : List (List String)) : Prop where
  height : block.length = max 1 (mostLines row)
  arity : ∀ fields ∈ block, fields.length = columns.length
  column : ∀ (index own : Nat) (cell : String),
    columns[index]? = some own → row[index]? = some cell → ∃ missing,
      List.Forall₂ (Field measure own)
        (cellLines cell ++ List.replicate missing [])
        (block.map (·.getD index ""))

/-- A line of a cell stands in a field of its column. -/
theorem Block.exists_field {columns : List Nat} {row : List String}
    {block : List (List String)} (made : Block measure columns row block)
    {index own line : Nat} {cell : String} {text : List Char}
    (known : columns[index]? = some own) (stands : row[index]? = some cell)
    (shown : (cellLines cell)[line]? = some text) :
    ∃ fields field,
      block[line]? = some fields ∧ fields[index]? = some field ∧
        Field measure own text field := by
  obtain ⟨missing, filled⟩ := made.column index own cell known stands
  obtain ⟨inside, rfl⟩ := List.getElem?_eq_some_iff.mp shown
  have within : line < (cellLines cell ++ List.replicate missing []).length := by
    rw [List.length_append]
    omega
  have bound : line < block.length := by
    have height := filled.length_eq
    rw [List.length_map] at height
    omega
  have across : index < (block[line]).length := by
    rw [made.arity _ (List.getElem_mem bound)]
    exact (List.getElem?_eq_some_iff.mp known).1
  refine ⟨block[line], (block[line])[index], List.getElem?_eq_getElem bound,
    List.getElem?_eq_getElem across, ?_⟩
  have own := filled.get within (by simpa using bound)
  simpa [List.getElem_append_left inside, List.getElem?_eq_getElem across]
    using own

/-- The fields of a line of text of a row. -/
def fieldsAt (measure : Measure) (columns : List Nat) (row : List String)
    (line : Nat) : List String :=
  List.zipWith (padded measure.width)
    (row.map fun cell => (cellLines cell).getD line []) columns

/-- The fields of a row from top to bottom. -/
def blockOf (measure : Measure) (columns : List Nat) (row : List String) :
    List (List String) :=
  (List.range (Table.height row)).map (fieldsAt measure columns row)

/-- Lines with nothing behind them, as far down as a row goes. -/
theorem append_replicate_eq_map_range {lines : List (List Char)}
    {count : Nat} (fits : lines.length ≤ count) :
    lines ++ List.replicate (count - lines.length) [] =
      (List.range count).map (lines.getD · []) := by
  apply List.ext_getElem
  · simp [fits]
  · intro line first second
    rw [List.getElem_append]
    split
    · simp [List.getD_eq_getElem?_getD, *]
    · rename_i beyond
      simp [List.getD_eq_getElem?_getD, Nat.le_of_not_lt beyond]

section Fitting

variable {columns : List Nat} {row : List String}

/-- Where a cell has no more lines, an empty text fits. -/
theorem width_getD_le {cell : String} {own : Nat}
    (fits : ∀ line ∈ cellLines cell, measure.width line ≤ own)
    (line : Nat) : measure.width ((cellLines cell).getD line []) ≤ own := by
  rw [List.getD_eq_getElem?_getD]
  cases shown : (cellLines cell)[line]? with
  | none =>
      rw [Option.getD_none, measure.width_nil]
      exact Nat.zero_le _
  | some text => exact fits text (List.mem_of_getElem? shown)

/-- If the lines of the cells fit, the fields of a row have them. -/
theorem block_of_fits (fits : Fits measure columns row) :
    Block measure columns row (blockOf measure columns row) := by
  constructor
  · rw [blockOf, List.length_map, List.length_range, height_eq]
  · intro fields member
    obtain ⟨line, -, rfl⟩ := List.mem_map.mp member
    simp [fieldsAt, fits.length_eq]
  · intro index own cell known stands
    refine ⟨Table.height row - (cellLines cell).length, ?_⟩
    have among : cell ∈ row := List.mem_of_getElem? stands
    have inside : ∀ line ∈ cellLines cell, measure.width line ≤ own := by
      obtain ⟨bound, rfl⟩ := List.getElem?_eq_some_iff.mp stands
      obtain ⟨within, rfl⟩ := List.getElem?_eq_some_iff.mp known
      exact fits.get bound within
    have field (line : Nat) :
        (fieldsAt measure columns row line).getD index "" =
          padded measure.width ((cellLines cell).getD line []) own := by
      simp [fieldsAt, List.getElem?_zipWith, stands, known]
    rw [append_replicate_eq_map_range (length_cellLines_le among), blockOf,
      List.map_map, List.forall₂_map_left_iff, List.forall₂_map_right_iff,
      List.forall₂_same]
    intro line _
    rw [Function.comp_apply, field]
    exact padded_field (width_getD_le inside line)

/-- The fields of a line are texts without line feeds, each in its column. -/
theorem forall₂_fieldsAt (fits : Fits measure columns row) (line : Nat) :
    List.Forall₂
      (fun field own => ∃ text, '\n' ∉ text ∧ Field measure own text field)
      (fieldsAt measure columns row line) columns := by
  induction fits with
  | nil => exact .nil
  | @cons cell own row columns inside fits ih =>
      refine .cons ⟨(cellLines cell).getD line [], ?_,
        padded_field (width_getD_le inside line)⟩ ih
      rw [List.getD_eq_getElem?_getD]
      cases shown : (cellLines cell)[line]? with
      | none => exact List.not_mem_nil
      | some text =>
          exact Text.lineFeed_not_mem (List.mem_of_getElem? shown)

end Fitting

/-! ## Lines -/

/-- A line of fields. -/
def drawLine (left middle right : String) (fields : List String) : String :=
  left ++ middle.intercalate fields ++ right

/-- A line of text. -/
def drawText (fields : List String) : String :=
  drawLine "│" "│" "│" fields

/-- The fields of a border. -/
def borderFields (columns : List Nat) : List String :=
  columns.map fun own => String.ofList (List.replicate (own + 2) '─')

/-- The lines of a table, from the fields of its head and of its rows. -/
def drawing (columns : List Nat) (head : List (List String))
    (blocks : List (List (List String))) : List String :=
  [drawLine "┌" "┬" "┐" (borderFields columns)] ++ head.map drawText ++
    blocks.flatMap (fun block =>
      drawLine "├" "┼" "┤" (borderFields columns) :: block.map drawText) ++
    [drawLine "└" "┴" "┘" (borderFields columns)]

/-- The width of a line of fields that fill their columns. -/
def lineWidth (columns : List Nat) : Nat :=
  (columns.map (· + 2)).foldr (· + ·) 0 + (columns.length - 1) + 2

/-- A line that is as wide as the columns of a table and that is cut from the
next one by a line feed. -/
structure IsLine (measure : Measure) (columns : List Nat) (line : String) :
    Prop where
  unbroken : '\n' ∉ line.toList
  ends : ∃ start last, last ≠ '\r' ∧ line.toList = start ++ [last]
  measured : measure.width line.toList = lineWidth columns

theorem width_intercalate {middle right : Char}
    (between : middle ∈ frameSigns) (closing : right ∈ frameSigns)
    (fields : List (List Char)) :
    measure.width ([middle].intercalate fields ++ [right]) =
      (fields.map measure.width).foldr (· + ·) 0 + (fields.length - 1) +
        1 := by
  induction fields with
  | nil => simp [measure.width_frame_cons closing, measure.width_nil]
  | cons field later ih =>
      cases later with
      | nil =>
          rw [List.intercalate_singleton,
            measure.width_append_frame _ closing, measure.width_nil]
          simp
      | cons second later =>
          rw [List.intercalate_cons_of_ne_nil (List.cons_ne_nil _ _),
            List.append_assoc, List.append_assoc, List.singleton_append,
            measure.width_append_frame _ between, ih]
          simp only [List.map_cons, List.foldr_cons, List.length_cons]
          omega

/-- Fields that have no line feeds and fill their columns make a line, between
signs of one column. -/
theorem isLine_drawLine (left middle right : Char)
    (signs : [left, middle, right] ⊆ frameSigns)
    {columns : List Nat} {fields : List String}
    (unbroken : ∀ field ∈ fields, '\n' ∉ field.toList)
    (filled : fields.map (measure.width ·.toList) = columns.map (· + 2)) :
    IsLine measure columns
      (drawLine (String.singleton left) (String.singleton middle)
        (String.singleton right) fields) := by
  have whole :
      (drawLine (String.singleton left) (String.singleton middle)
          (String.singleton right) fields).toList =
        left :: ([middle].intercalate (fields.map String.toList) ++
          [right]) := by
    simp [drawLine]
  have count : fields.length = columns.length := by
    simpa using congrArg List.length filled
  have lineFeed : '\n' ∉ frameSigns := by decide
  have carriageReturn : '\r' ∉ frameSigns := by decide
  simp only [List.cons_subset] at signs
  obtain ⟨opening, between, closing, -⟩ := signs
  constructor
  · rw [whole, List.mem_cons, List.mem_append]
    rintro (opens | inside | closes)
    · exact lineFeed (opens ▸ opening)
    · rcases Text.mem_or_mem_of_mem_intercalate inside with
        separates | ⟨text, among, own⟩
      · exact lineFeed (List.mem_singleton.mp separates ▸ between)
      · obtain ⟨field, member, rfl⟩ := List.mem_map.mp among
        exact unbroken field member own
    · exact lineFeed (List.mem_singleton.mp closes ▸ closing)
  · exact ⟨left :: [middle].intercalate (fields.map String.toList), right,
      fun same => carriageReturn (same ▸ closing), whole⟩
  · rw [whole, measure.width_frame_cons opening,
      width_intercalate between closing, List.map_map, List.length_map,
      count, lineWidth, ← filled]
    simp only [Function.comp_def]
    omega

/-- Borders are as wide as lines of text. -/
theorem isLine_border (left middle right : Char)
    (signs : [left, middle, right] ⊆ frameSigns)
    (columns : List Nat) :
    IsLine measure columns
      (drawLine (String.singleton left) (String.singleton middle)
        (String.singleton right) (borderFields columns)) := by
  have dash : '─' ∈ frameSigns := by decide
  apply isLine_drawLine left middle right signs
  · intro field member
    obtain ⟨own, -, rfl⟩ := List.mem_map.mp member
    simp
  · simp [borderFields, measure.width_replicate dash]

/-- The lines of text of a row are as wide as the columns. -/
theorem isLine_text {columns : List Nat} {row : List String}
    (fits : Fits measure columns row) {fields : List String}
    (member : fields ∈ blockOf measure columns row) :
    IsLine measure columns (drawText fields) := by
  obtain ⟨line, -, rfl⟩ := List.mem_map.mp member
  have made := forall₂_fieldsAt fits line
  have bars : ['│', '│', '│'] ⊆ frameSigns := by decide
  apply isLine_drawLine '│' '│' '│' bars
  · intro field among
    obtain ⟨index, inside, rfl⟩ := List.getElem_of_mem among
    obtain ⟨text, unbroken, filled⟩ :=
      made.get inside (made.length_eq ▸ inside)
    exact filled.unbroken unbroken
  · rw [← List.forall₂_eq_eq_eq, List.forall₂_map_left_iff,
      List.forall₂_map_right_iff]
    exact made.imp fun _ _ ⟨_, _, filled⟩ => filled.measured

/-- Every line of a table whose rows fit is as wide as its columns. -/
theorem isLine_of_mem_drawing {columns : List Nat} {head : List String}
    {rows : List (List String)} (first : Fits measure columns head)
    (fits : ∀ row ∈ rows, Fits measure columns row) {line : String}
    (member : line ∈ drawing columns (blockOf measure columns head)
      (rows.map (blockOf measure columns))) :
    IsLine measure columns line := by
  have texts {row : List String} (fits : Fits measure columns row) :
      ∀ line ∈ (blockOf measure columns row).map drawText,
        IsLine measure columns line := by
    rw [List.forall_mem_map]
    exact fun fields among => isLine_text fits among
  simp only [drawing, List.mem_append, List.mem_flatMap, List.mem_map,
    exists_exists_and_eq_and, List.mem_cons, List.not_mem_nil, or_false]
    at member
  rcases member with ((rfl | shown) | ⟨row, among, rfl | shown⟩) | rfl
  · exact isLine_border '┌' '┬' '┐' (by decide) columns
  · exact texts first line (List.mem_map.mpr shown)
  · exact isLine_border '├' '┼' '┤' (by decide) columns
  · exact texts (fits row among) line (List.mem_map.mpr shown)
  · exact isLine_border '└' '┴' '┘' (by decide) columns

/-! ## Tables -/

/-- The lines of text of a row are drawn from its fields. -/
theorem rowLines_eq (columns : List Nat) (row : List String) :
    rowLines measure.width columns row =
      (blockOf measure columns row).map drawText := by
  rw [blockOf, List.map_map]
  rfl

/-- The names of the columns make a row of one line. -/
theorem rowLines_head {names : List String} (columns : List Nat)
    (single : ∀ name ∈ names, '\n' ∉ name.toList) :
    rowLines measure.width columns names =
      [textLine measure.width columns (names.map String.toList)] := by
  have lines (name : String) (member : name ∈ names) :=
    cellLines_of_unbroken (single name member)
  have most : mostLines names ≤ 1 := by
    apply mostLines_le
    intro name member
    rw [lines name member]
    split <;> simp
  have texts :
      (names.map fun name => (cellLines name).getD 0 []) =
        names.map String.toList := by
    apply List.map_congr_left
    intro name member
    rw [lines name member]
    split
    · rename_i empty
      rw [empty]
      rfl
    · rfl
  rw [rowLines, height_eq, Nat.max_eq_left most, List.range_one,
    List.map_singleton, texts]

/-- What is drawn as a table: the widths of its columns, and the fields of its
head and of its rows. -/
structure Layout (measure : Measure) (table : Table) (columns : List Nat)
    (first : List (List String)) (blocks : List (List (List String))) :
    Prop where
  arity : columns.length = table.head.length
  /-- Columns are as wide as the widest text in them. -/
  widest : ∀ (index own : Nat), columns[index]? = some own →
    IsWidest measure own (table.columnTexts index)
  head : Block measure columns table.head first
  rows : List.Forall₂ (Block measure columns) table.rows blocks
  /-- The lines of the table as a text are drawn from the fields. -/
  drawn : Text.lines (table.render measure.width).toList =
    (drawing columns first blocks).map String.toList
  count : (Text.lines (table.render measure.width).toList).length =
    3 + (table.rows.map fun row => 1 + max 1 (mostLines row)).sum
  /-- All lines are equally wide. -/
  straight : ∃ total,
    ∀ line ∈ Text.lines (table.render measure.width).toList,
      measure.width line = total

variable (measure)

/-- A table is drawn from the fields of its rows. -/
theorem lines_eq {table : Table}
    (single : ∀ name ∈ table.head, '\n' ∉ name.toList) :
    table.lines measure.width =
      drawing (table.widths measure.width)
        (blockOf measure (table.widths measure.width) table.head)
        (table.rows.map
          (blockOf measure (table.widths measure.width))) := by
  have head :
      rowLines measure.width (table.widths measure.width) table.head =
        (blockOf measure (table.widths measure.width) table.head).map
          drawText :=
    rowLines_eq _ _
  rw [rowLines_head (table.widths measure.width) single] at head
  rw [lines, drawing, ← head, List.flatMap_map]
  simp only [rowLines_eq]
  rfl

theorem length_drawing (columns : List Nat) {first : List (List String)}
    (one : first.length = 1) (blocks : List (List (List String))) :
    (drawing columns first blocks).length =
      3 + (blocks.map fun block => 1 + block.length).sum := by
  simp only [drawing, List.length_append, List.length_map, List.length_flatMap,
    List.length_cons, List.length_nil, one, Nat.add_comm 1]
  omega

section Rectangular

variable {table : Table}
variable (rectangular : ∀ row ∈ table.rows, row.length = table.head.length)

include rectangular

theorem forall₂_block :
    List.Forall₂ (Block measure (table.widths measure.width)) table.rows
      (table.rows.map (blockOf measure (table.widths measure.width))) := by
  rw [List.forall₂_map_right_iff, List.forall₂_same]
  intro row among
  exact block_of_fits
    (fits_of_mem_rows measure among (rectangular row among))

variable (single : ∀ name ∈ table.head, '\n' ∉ name.toList)

include single

theorem isLine_of_mem_lines {line : String}
    (member : line ∈ table.lines measure.width) :
    IsLine measure (table.widths measure.width) line := by
  rw [lines_eq measure single] at member
  refine isLine_of_mem_drawing (fits_head measure single) ?_ member
  exact fun row among =>
    fits_of_mem_rows measure among (rectangular row among)

/-- The lines of a table are not cut further when it is read as a text. -/
theorem lines_render :
    Text.lines (table.render measure.width).toList =
      (table.lines measure.width).map String.toList := by
  rw [render, String.toList_intercalate]
  apply Text.lines_intercalate
  · rw [List.forall_mem_map]
    exact fun line member =>
      (isLine_of_mem_lines measure rectangular single member).unbroken
  · rw [List.forall_mem_map]
    exact fun line member =>
      (isLine_of_mem_lines measure rectangular single member).ends

end Rectangular

/--
A table with single-line names and with a cell for every name in each row is
drawn as a border, the names, each row below a border, and another border.  In
every column each line of each cell is there, in its place, and is filled up to
the width of the widest, however texts are measured.
-/
theorem render_fills_columns (measure : Measure) (table : Table)
    (rectangular : ∀ row ∈ table.rows, row.length = table.head.length)
    (single : ∀ name ∈ table.head, '\n' ∉ name.toList) :
    ∃ columns first blocks, Layout measure table columns first blocks := by
  have text := lines_render measure rectangular single
  refine ⟨table.widths measure.width,
    blockOf measure (table.widths measure.width) table.head,
    table.rows.map (blockOf measure (table.widths measure.width)), ?_⟩
  constructor
  · exact length_widths measure table
  · exact fun index own known => isWidest_of_widths measure known
  · exact block_of_fits (fits_head measure single)
  · exact forall₂_block measure rectangular
  · rw [text, lines_eq measure single]
  · have one :
        (blockOf measure (table.widths measure.width) table.head).length =
          1 := by
      rw [← List.length_map drawText, ← rowLines_eq,
        rowLines_head (table.widths measure.width) single]
      rfl
    have heights :
        (table.rows.map
            (blockOf measure (table.widths measure.width))).map
            (fun block => 1 + block.length) =
          table.rows.map fun row => 1 + max 1 (mostLines row) := by
      rw [List.map_map]
      apply List.map_congr_left
      intro row _
      simp [blockOf, height_eq]
    rw [text, List.length_map, lines_eq measure single,
      length_drawing (table.widths measure.width) one, heights]
  · refine ⟨lineWidth (table.widths measure.width), ?_⟩
    rw [text, List.forall_mem_map]
    exact fun line member =>
      (isLine_of_mem_lines measure rectangular single member).measured

end Table

end ScenarioRunner.Console

namespace ScenarioRunner.Sample

open Console (Table terminal)

/-- A table with cells of several lines, an empty cell, and wide characters. -/
def spread : Table where
  head := ["A", "long"]
  rows := [["x\n\n日本", "1\n"], ["", "\x1B[31mred\x1B[0m"]]

theorem spread_fills_columns :
    (∀ row ∈ spread.rows, row.length = spread.head.length) ∧
      (∀ name ∈ spread.head, '\n' ∉ name.toList) ∧
      spread.render terminal.width =
        "┌──────┬──────┐\n│ A    │ long │\n├──────┼──────┤\n" ++
          "│ x    │ 1    │\n│      │      │\n│ 日本 │      │\n" ++
          "├──────┼──────┤\n│      │ \x1B[31mred\x1B[0m  │\n" ++
          "└──────┴──────┘" ∧
      ∃ columns first blocks,
        Table.Layout terminal spread columns first blocks := by
  have rectangular :
      ∀ row ∈ spread.rows, row.length = spread.head.length := by
    decide
  have single : ∀ name ∈ spread.head, '\n' ∉ name.toList := by
    decide
  exact ⟨rectangular, single, by decide +kernel,
    Table.render_fills_columns terminal spread rectangular single⟩

end ScenarioRunner.Sample
