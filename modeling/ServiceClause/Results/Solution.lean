import ServiceClause.Results.Term
import ServiceClause.Row

/-!
# Solutions in result documents

A result document writes a solution as an object of terms. Objects have no order, so the row lists
its variables in the order of the document's head, and the ones that the head does not mention after
them in the order of their names.

## Main definitions

* `ServiceClause.RawSolution` — a solution as it is written.
* `ServiceClause.RawSolution.order` — the variables in the order of the row.
* `ServiceClause.RawSolution.decode` — the row, or the error of the first term in that order whose
  kind is unknown.
-/

set_option autoImplicit false

namespace ServiceClause

open Json

/-- A solution as it is written. Of two terms for one variable the last one counts. -/
abbrev RawSolution := List (Name × ResultTerm)

namespace RawSolution

/-- The variables of a solution. -/
def keys (raw : RawSolution) : List Name := raw.map Prod.fst

/-- The term of a variable. -/
def term? (raw : RawSolution) (n : Name) : Option ResultTerm := raw.reverse.lookup n

/-- The variables in the order of the row: those of the head first, each once. -/
def order (head : List Name) (raw : RawSolution) : List Name :=
  head.eraseDups.filter (raw.keys.contains ·) ++
    ((NameSet.ofList raw.keys).diff (NameSet.ofList head)).toList

/-- The bindings of the variables in `names`, up to the first term whose kind is unknown. -/
def bindings (raw : RawSolution) : List Name → Except FederationError Bindings
  | [] => .ok []
  | n :: names =>
    match raw.term? n with
    | none => bindings raw names
    | some t => do return (n, ← t.toTerm) :: (← bindings raw names)

/-- The row of a solution. -/
def decode (head : List Name) (raw : RawSolution) : Except FederationError Row :=
  (bindings raw (order head raw)).map Row.ofList

/-- How a row is written: its variables in the order of their names. -/
def ofRow (row : Row) : RawSolution :=
  row.nameSet.toList.filterMap fun n => (row.get? n).map fun t => (n, .ofTerm t)

/-- The object that writes a solution. -/
def toJson (raw : RawSolution) : Json :=
  .object (raw.map fun m => (some m.1, m.2.toJson))

/-- The solution that an object writes. -/
def ofJson? (v : Json) : Option RawSolution := asMap? ResultTerm.ofJson? v

theorem ofJson?_toJson (raw : RawSolution) : ofJson? raw.toJson = some raw :=
  asMap?_object ResultTerm.ofJson?_toJson raw

end RawSolution

end ServiceClause
