/-!
# Data tables

The table that a step receives as its argument.  Its first row may be read as
a header, or its two columns as keys and values.
-/

namespace ScenarioRunner

/-- The rows of a table; they may differ in width. -/
structure DataTable where
  raw : List (List String)
  deriving DecidableEq, Repr, Inhabited

namespace DataTable

/-- Of the pairs with one key, the last. -/
def lastByKey (pairs : List (String × String)) : List (String × String) :=
  pairs.foldr
    (fun pair later =>
      if later.any (·.1 == pair.1) then later else pair :: later) []

/-- The rows below the first. -/
def rows (table : DataTable) : List (List String) :=
  table.raw.drop 1

/-- The rows below the first, each as a dictionary whose keys are the cells
of the first.  Cells without a counterpart are left out. -/
def hashes (table : DataTable) : List (List (String × String)) :=
  table.rows.map fun row => lastByKey ((table.raw.headD []).zip row)

/-- The two cells of a row. -/
def pair? : List String → Option (String × String)
  | [key, value] => some (key, value)
  | _ => none

/-- The dictionary of the first column to the second, if every row has two
cells. -/
def rowsHash? (table : DataTable) : Option (List (String × String)) :=
  (table.raw.mapM pair?).map lastByKey

/-- The table with rows and columns exchanged.  It has as many rows as the
first row has cells; a row that is too short is skipped. -/
def transpose (table : DataTable) : DataTable where
  raw := (List.range (table.raw.headD []).length).map fun index =>
    table.raw.filterMap (·[index]?)

/-- Whether a table has no rows. -/
def isEmpty (table : DataTable) : Bool := table.raw.isEmpty

/-- The table as it is written in a feature file. -/
def render (table : DataTable) : String :=
  String.join (table.raw.map fun row =>
    "| " ++ " | ".intercalate row ++ " |\n")

@[simp] theorem rows_mk_cons (header : List String)
    (body : List (List String)) : (DataTable.mk (header :: body)).rows = body :=
  rfl

end DataTable

end ScenarioRunner
