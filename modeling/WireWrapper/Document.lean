/-!
# Documentation trees

Sections with headings, which hold tables and further sections.

* `Document`, `Section`, `Table`, `Row`, `Cell`   the tree;
* `Table.headers`     the header cells of a table, row by row;
* `Table.dataRows`    the rows with at least one data cell;
* `Row.dataCell?`     a data cell by its place among the data cells of its row.
-/

namespace WireWrapper

/-- A cell of a table: a header or a datum. -/
structure Cell where
  text : String
  isHeader : Bool
deriving DecidableEq, Repr

structure Row where
  cells : List Cell
deriving DecidableEq, Repr

structure Table where
  rows : List Row
deriving DecidableEq, Repr

/-- A section with its tables and its subsections. -/
structure Section where
  heading : String
  tables : List Table
  subsections : List Section
deriving Repr, Inhabited

/-- A documentation tree. -/
structure Document where
  sections : List Section
deriving Repr

def Row.dataCells (row : Row) : List Cell := row.cells.filter (!·.isHeader)

/-- The text of the data cell at an index that counts data cells only. -/
def Row.dataCell? (row : Row) (index : Nat) : Option String :=
  row.dataCells[index]?.map (·.text)

namespace Table

/-- The header cells of a table, row by row. -/
def headers (table : Table) : List Cell :=
  (table.rows.flatMap (·.cells)).filter (·.isHeader)

/-- The rows with at least one data cell. -/
def dataRows (table : Table) : List Row :=
  table.rows.filter fun row => row.cells.any (!·.isHeader)

end Table
end WireWrapper
