import ServiceClause.Duration
import ServiceClause.Row

/-!
# Reports

A report is what is shown of the rows that a clause has given. It has a column for every variable
that is bound in any of them.

## Main definitions

* `ServiceClause.Report` — the rows, and where and how fast they came.
* `ServiceClause.Report.columns` — the variables that have one.
* `ServiceClause.Report.cells` — the terms, row by row and column by column.

## Main statements

* `ServiceClause.Report.length_of_mem_cells` — every row has as many cells as there are columns.
-/

set_option autoImplicit false

namespace ServiceClause

/-- The rows that a clause has given, with what is told about them. -/
structure Report where
  /-- Where they came from. -/
  endpoint : String
  /-- The rows. -/
  rows : List Row
  /-- The time that it took to get them. -/
  elapsed : Duration

namespace Report

/-- The variables that are bound in any row, in the order in which they first appear. -/
def columns (r : Report) : List Name := (r.rows.flatMap Row.names).eraseDups

/-- The time that it took, in whole milliseconds. -/
def milliseconds (r : Report) : Nat := r.elapsed.milliseconds

/-- The terms of every row, column by column. -/
def cells (r : Report) : List (List (Option Term)) :=
  let columns := r.columns
  r.rows.map fun row => columns.map row.get?

@[simp] theorem length_cells (r : Report) : r.cells.length = r.rows.length := by
  simp [cells]

theorem length_of_mem_cells {r : Report} {terms : List (Option Term)} (h : terms ∈ r.cells) :
    terms.length = r.columns.length := by
  obtain ⟨row, _, rfl⟩ := List.mem_map.1 h
  simp

end Report

end ServiceClause
