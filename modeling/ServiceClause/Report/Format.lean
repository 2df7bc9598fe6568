import ServiceClause.Json.Printer
import ServiceClause.Report.Basic
import ServiceClause.Report.Csv
import ServiceClause.Report.Grid
import ServiceClause.Results.Document

/-!
# Formats of reports

A report is shown as a grid to people, and as a result document or as separated fields to programs.

## Main definitions

* `ServiceClause.Format` — the formats.
* `ServiceClause.Report.table`, `ServiceClause.Report.json`, `ServiceClause.Report.csv` — a report
  in each of them.
* `ServiceClause.Report.text` — a report in a given one.
-/

set_option autoImplicit false

namespace ServiceClause

/-- How a report is shown. -/
inductive Format where
  /-- A grid under a few lines about the evaluation. -/
  | table
  /-- A result document. -/
  | json
  /-- Records of separated fields under a record of the variables. -/
  | csv
deriving DecidableEq, Repr

/-- The name of a format. -/
def Format.name : Format → String
  | table => "table"
  | json => "json"
  | csv => "csv"

/-- The format of a name. -/
def Format.ofName? (s : String) : Option Format :=
  [table, json, csv].find? (·.name = s)

namespace Report

/-- The terms of the report in a grid under the names of the variables. -/
def grid (r : Report) : Grid where
  head := r.columns.map fun n => Cell.ofString ("?" ++ n)
  rows := r.cells.map (·.map fun t => Cell.ofString ((t.map Term.text).getD ""))

/-- The report for people. -/
def table (r : Report) : String :=
  if r.rows.isEmpty then "No results found\n"
  else "Service Results\nEndpoint: " ++ r.endpoint ++
    "\nExecution time: " ++ toString r.milliseconds ++
    " ms\nRows returned: " ++ toString r.rows.length ++ "\n\n" ++ r.grid.text ++ "\n"

/-- The report as a result document. -/
def json (r : Report) : String := (solutionsJson r.columns r.rows).pretty

/-- The records of the report: the variables, and the values of each row. -/
def records (r : Report) : List Csv.Record :=
  r.columns.map String.toList ::
    r.cells.map (·.map fun t => ((t.map Term.value).getD "").toList)

/-- The report as records of separated fields. -/
def csv (r : Report) : String := String.ofList (Csv.document r.records)

/-- The report in a format. -/
def text (r : Report) : Format → String
  | .table => r.table
  | .json => r.json
  | .csv => r.csv

end Report

end ServiceClause
