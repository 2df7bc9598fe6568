import ServiceClause.Duration

/-!
# Why an evaluation fails

An error has one of seven kinds, and the kind decides what happens next: a malformed query always
reaches the consumer, a failed execution may be retried row by row, and a silent clause hides
everything else. The causes that this library itself detects are named here, with their wording.

## Main definitions

* `ServiceClause.FederationError` — the seven kinds.
* `ServiceClause.FederationError.isMalformed`, `isRecoverable` — the two questions asked of a kind.
* `ServiceClause.FederationError.message` — the text shown to people.
-/

set_option autoImplicit false

namespace ServiceClause

/-- Why the evaluation of a clause failed. -/
inductive FederationError where
  /-- The text of the query is invalid. -/
  | malformedQuery (detail : String)
  /-- The endpoint cannot be reached or set up. -/
  | connection (detail : String)
  /-- The endpoint failed to answer the query. -/
  | queryExecution (detail : String)
  /-- The endpoint took longer than the budget. -/
  | timeout (budget : Duration)
  /-- A term cannot be sent to, or was not understood from, an endpoint. -/
  | unsupportedTerm (detail : String)
  /-- The configuration is invalid. -/
  | invalidConfig (detail : String)
  /-- The source of input rows failed. -/
  | source (detail : String)
deriving DecidableEq, Repr

namespace FederationError

/-- Whether the text of the query is at fault. Such an error is never hidden. -/
def isMalformed : FederationError → Bool
  | malformedQuery _ => true
  | _ => false

/-- Whether the endpoint failed while executing the query, in time or not. -/
def isQueryExecution : FederationError → Bool
  | queryExecution _ => true
  | timeout _ => true
  | _ => false

/-- Whether a batch that failed in this way may be retried row by row. -/
def isRecoverable (e : FederationError) : Bool :=
  e.isQueryExecution

/-- The text shown to people. -/
def message : FederationError → String
  | malformedQuery detail => "Malformed query: " ++ detail
  | connection detail => "Connection error: " ++ detail
  | queryExecution detail => "Query execution error: " ++ detail
  | timeout budget => "Query execution timed out after " ++ budget.text
  | unsupportedTerm detail => "Unsupported term: " ++ detail
  | invalidConfig detail => "Invalid configuration: " ++ detail
  | source detail => "Row source error: " ++ detail

/-! ## Causes -/

/-- The query has no opening brace outside strings, IRIs and comments. -/
def noGroupPattern : FederationError :=
  malformedQuery "query has no group graph pattern"

/-- The blank node `label` would have to be named outside the document it belongs to. -/
def blankNode (label : String) : FederationError :=
  unsupportedTerm ("blank node _:" ++ label ++ " cannot be sent to a remote endpoint")

/-- A result document holds a term of an unknown kind. -/
def unknownTermKind (kind : String) : FederationError :=
  unsupportedTerm ("unknown term type '" ++ kind ++ "' in result document")

/-- A result document cannot be read. -/
def undecodableResults (detail : String) : FederationError :=
  queryExecution ("Undecodable result document: " ++ detail)

/-- A result document holds neither solutions nor a truth value. -/
def emptyResults : FederationError :=
  queryExecution "result document has neither 'results' nor 'boolean'"

/-- The answer to a yes-or-no query holds no truth value. -/
def noTruthValue : FederationError :=
  queryExecution "ASK response carries no 'boolean' field"

/-- Input rows written as a document cannot be read. -/
def undecodableRows (detail : String) : FederationError :=
  source ("Invalid bindings JSON: " ++ detail)

/-- A configuration document cannot be read. -/
def undecodableConfig (detail : String) : FederationError :=
  invalidConfig ("Invalid JSON: " ++ detail)

/-- The clause declares the variable that carries the row index. -/
def reservedRowIndex (endpoint variableName : String) : FederationError :=
  invalidConfig ("SERVICE <" ++ endpoint ++ "> declares ?" ++ variableName ++
    ", which is reserved for the row index")

/-- There is no such client. -/
def unknownClient : FederationError :=
  connection "Unknown client"

/-! ## Which kinds answer which question -/

@[simp] theorem isMalformed_iff {e : FederationError} :
    e.isMalformed = true ↔ ∃ detail, e = malformedQuery detail := by
  cases e <;> simp [isMalformed]

theorem isMalformed_eq_false_of_isRecoverable {e : FederationError} (h : e.isRecoverable = true) :
    e.isMalformed = false := by
  cases e <;> simp_all [isRecoverable, isQueryExecution, isMalformed]

end FederationError

end ServiceClause
