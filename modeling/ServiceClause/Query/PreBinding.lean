import ServiceClause.Query.Token
import ServiceClause.Row

/-!
# Binding variables in a query text

A query has no parameters, so a value for a variable is written into its text. In the pattern, from
the first opening brace on, the variable is replaced by the term. Before it, in the projection, the
variable has to stay a column of the result and becomes `(term AS ?name)`. Only variables are
replaced: nothing inside strings, IRIs and comments is touched.

## Main definitions

* `ServiceClause.Row.renderable` — the values of a row that can be written into a query.
* `ServiceClause.preBind` — the query with these values in place of their variables.
-/

set_option autoImplicit false

namespace ServiceClause

/-- The values of the row for declared variables, as query text. A blank node has no query text and
leaves its variable unbound. -/
def Row.renderable (row : Row) (declared : NameSet) : List (Name × String) :=
  (row.entries.filter fun b => b.1 ∈ declared).filterMap fun b =>
    b.2.queryText?.map fun text => (b.1, text)

namespace Token

/-- The characters that replace a piece: a variable with a value gives way to it, in the projection
together with its name. -/
def bind (values : List (Name × String)) (inPattern : Bool) (piece : Token) : List Char :=
  match piece with
  | .var _ name =>
    match values.lookup (String.ofList name) with
    | none => piece.chars
    | some text =>
      if inPattern then text.toList
      else '(' :: text.toList ++ " AS ?".toList ++ name ++ [')']
  | _ => piece.chars

/-- The characters of all pieces with values in place of their variables. The pattern begins at the
first opening brace. -/
def bindAll (values : List (Name × String)) : Bool → List Token → List Char
  | _, [] => []
  | inPattern, piece :: rest =>
    piece.bind values inPattern ++ bindAll values (inPattern || piece.isOpenBrace) rest

end Token

/-- The query with the values of `row` in place of the declared variables. Without any value the
query is left as it is; otherwise it must have a pattern. -/
def preBind (query : String) (row : Row) (declared : NameSet) : Except FederationError String :=
  let values := row.renderable declared
  if values.isEmpty then .ok query
  else
    let pieces := Token.scan query.toList
    if pieces.any (·.isOpenBrace) then .ok (String.ofList (Token.bindAll values false pieces))
    else .error .noGroupPattern

end ServiceClause
