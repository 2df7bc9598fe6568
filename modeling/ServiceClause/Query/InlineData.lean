import ServiceClause.Row

/-!
# Inline data

A batch of rows travels to the endpoint as a block of inline data at the end of the query: one tuple
for each row, which begins with the number of the row in the batch and goes on with its values.
`UNDEF` stands for a variable that the row leaves unbound.

## Main definitions

* `ServiceClause.relevantNames` — the variables whose values are sent.
* `ServiceClause.inlineData` — the block of inline data.
-/

set_option autoImplicit false

namespace ServiceClause

/-- The variables whose values are sent: those that the first row binds and the clause declares, in
the order of the first row. -/
def relevantNames (batch : List Row) (declared : NameSet) : List Name :=
  match batch with
  | [] => []
  | row :: _ => row.names.filter (· ∈ declared)

namespace InlineData

/-- The value of a variable in a tuple. -/
def cell (row : Row) (n : Name) : Except FederationError String :=
  match row.get? n with
  | some t => t.queryText
  | none => .ok "UNDEF"

/-- The cells of a tuple, each followed by a space. The first blank node is an error. -/
def cells (row : Row) : List Name → Except FederationError String
  | [] => .ok ""
  | n :: rest => do
    let text ← cell row n
    let others ← cells row rest
    return text ++ " " ++ others

/-- The tuples of the rows, which are numbered from `index` on. -/
def tuples (names : List Name) (index : Nat) : List Row → Except FederationError String
  | [] => .ok ""
  | row :: rest => do
    let text ← cells row names
    let others ← tuples names (index + 1) rest
    return " (\"" ++ toString index ++ "\" " ++ text ++ ")" ++ others

/-- The variables of the tuples. -/
def header (indexName : Name) (names : List Name) : String :=
  " VALUES (?" ++ indexName ++ String.join (names.map fun n => " ?" ++ n) ++ ") \x7b "

end InlineData

/-- The block of inline data with the number of each row of `batch` and its values for `names`. A
blank node among these values is an error. -/
def inlineData (batch : List Row) (names : List Name) (indexName : Name) :
    Except FederationError String := do
  let text ← InlineData.tuples names 0 batch
  return InlineData.header indexName names ++ text ++ " \x7d"

end ServiceClause
