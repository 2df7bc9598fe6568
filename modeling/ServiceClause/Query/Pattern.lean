import ServiceClause.NameSet
import ServiceClause.Text.Blank

/-!
# Queries made from a pattern

The text of a clause is a group graph pattern without its braces. From it arises one query for every
set of variables to select.

## Main definitions

* `ServiceClause.PatternQuery` — a pattern with the prefixes that it uses.
* `ServiceClause.PatternQuery.render` — the query that selects a set of variables.
-/

set_option autoImplicit false

namespace ServiceClause

/-- A pattern with the prefixes that it uses. -/
structure PatternQuery where
  /-- The prefixes with their namespaces, in the order of their declaration. -/
  prefixes : List (String × String)
  /-- The pattern without its braces. -/
  pattern : String
deriving DecidableEq

namespace PatternQuery

/-- The declaration of a prefix. -/
def prefixLine (declaration : String × String) : String :=
  "PREFIX " ++ declaration.1 ++ ": <" ++ declaration.2 ++ ">\n"

/-- What stands between `SELECT` and the pattern: the variables, or a star if there are none. -/
def selection (projection : NameSet) : String :=
  if projection.isEmpty then "*" else " ".intercalate (projection.toList.map fun n => "?" ++ n)

/-- The query that selects the variables of `projection`. -/
def render (q : PatternQuery) (projection : NameSet) : String :=
  String.join (q.prefixes.map prefixLine) ++ "SELECT " ++ selection projection ++
    " WHERE \x7b " ++ trim q.pattern ++ " \x7d"

end PatternQuery

end ServiceClause
