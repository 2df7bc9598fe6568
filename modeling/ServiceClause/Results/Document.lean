import ServiceClause.Json.Reader
import ServiceClause.Results.Solution
import ServiceClause.RowSequence

/-!
# Result documents

The answer of an endpoint is a document that holds solutions or a truth value. A truth value answers
a query for rows as well: one row without bindings, or none. A document is read as a whole, but each
of its solutions may still turn out to be an error of its own.

## Main definitions

* `ServiceClause.ResultDocument` — a document.
* `ServiceClause.Solutions` — the rows of an answer, any of which may be an error.
* `ServiceClause.Solutions.read`, `ServiceClause.readTruth` — understanding an answer.
* `ServiceClause.readRows`, `ServiceClause.solutionsJson` — rows as an array of solutions and as a
  whole document.
-/

set_option autoImplicit false

namespace ServiceClause

open Json

/-- A result document. -/
structure ResultDocument where
  /-- The variables that the head announces. -/
  head : List Name
  /-- The solutions. -/
  solutions? : Option (List RawSolution)
  /-- The truth value. -/
  truth? : Option Bool

namespace ResultDocument

/-- The fields of a document. -/
def shape : RecordShape := ⟨["head", "results", "boolean"], 3, true⟩

/-- The fields of a head. -/
def headShape : RecordShape := ⟨["vars"], 0, true⟩

/-- The fields of the part that holds the solutions. -/
def bodyShape : RecordShape := ⟨["bindings"], 0, true⟩

/-- The variables of a head. -/
def headOfJson? (v : Json) : Option (List Name) := do
  match ← headShape.fields? v with
  | [names] => default? (asList? asText?) [] names
  | _ => none

/-- The solutions of a body. -/
def bodyOfJson? (v : Json) : Option (List RawSolution) := do
  match ← bodyShape.fields? v with
  | [bindings] => default? (asList? RawSolution.ofJson?) [] bindings
  | _ => none

/-- The document that a value denotes. -/
def ofJson? (v : Json) : Option ResultDocument := do
  match ← shape.fields? v with
  | [head, results, truth] =>
    return ⟨← default? headOfJson? [] head, ← optional? bodyOfJson? results,
      ← optional? asBool? truth⟩
  | _ => none

/-- The document that symbols denote. -/
def read (document : List Symbol) : Except FederationError ResultDocument :=
  match Json.read document with
  | none => .error (.undecodableResults "not a JSON value")
  | some v =>
    match ofJson? v with
    | none => .error (.undecodableResults "not a result document")
    | some d => .ok d

end ResultDocument

/-! ## Rows of an answer -/

/-- The rows of an answer. -/
structure Solutions where
  /-- The variables that the answer announces. -/
  head : List Name
  /-- The rows, any of which may be an error. -/
  items : List Item

namespace Solutions

/-- An answer of rows. -/
def ofRows (head : List Name) (rows : List Row) : Solutions := ⟨head, rows.map .ok⟩

/-- The answer without rows. -/
def empty : Solutions := ⟨[], []⟩

/-- The number of rows. -/
def size (s : Solutions) : Nat := s.items.length

/-- The rows as a sequence. -/
def toSequence (s : Solutions) : RowSequence := .ofItems s.items

/-- The rows that a document holds. -/
def ofDocument (d : ResultDocument) : Except FederationError Solutions :=
  match d.solutions?, d.truth? with
  | some raw, _ => .ok ⟨d.head, raw.map (RawSolution.decode d.head)⟩
  | none, some true => .ok (ofRows [] [.empty])
  | none, some false => .ok empty
  | none, none => .error .emptyResults

/-- The rows of an answer. -/
def read (document : List Symbol) : Except FederationError Solutions :=
  (ResultDocument.read document).bind ofDocument

end Solutions

/-- The truth value of an answer. -/
def readTruth (document : List Symbol) : Except FederationError Bool := do
  match (← ResultDocument.read document).truth? with
  | some b => .ok b
  | none => .error .noTruthValue

/-! ## Rows at hand -/

/-- The rows of an array of solutions, or the error of the first one that is not understood. -/
def rowsOfJson? (v : Json) : Option (Except FederationError (List Row)) :=
  (asList? RawSolution.ofJson? v).map (·.mapM (RawSolution.decode []))

/-- The rows that a document written by hand holds. -/
def readRows (document : List Symbol) : Except FederationError (List Row) :=
  match Json.read document with
  | none => .error (.undecodableRows "not a JSON value")
  | some v => (rowsOfJson? v).getD (.error (.undecodableRows "not an array of solutions"))

/-- Rows as a result document. -/
def solutionsJson (head : List Name) (rows : List Row) : Json :=
  .record [
    ("head", some (.record [("vars", some (.strings head))])),
    ("results", some (.record [
      ("bindings", some (.array (rows.map fun r => (RawSolution.ofRow r).toJson)))]))]

end ServiceClause
