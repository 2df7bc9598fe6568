import ServiceClause.NameSet

/-!
# Clauses

A descriptor says what a clause asks of which endpoint. The text of its query depends on the
variables that the query is to select, so it is given as a function of them.

## Main definitions

* `ServiceClause.Descriptor` — a clause.
-/

set_option autoImplicit false

namespace ServiceClause

/-- A clause that is evaluated by a remote endpoint. -/
structure Descriptor where
  /-- The endpoint. -/
  endpoint : String
  /-- The variables that the clause declares. -/
  declared : NameSet
  /-- Whether failures of the endpoint are hidden. -/
  silent : Bool
  /-- The IRI that relative IRIs in the query are resolved against. -/
  base? : Option String
  /-- The text of the query that selects the given variables. -/
  render : NameSet → String

namespace Descriptor

/-- The variables to select for input rows that bind `bound`. -/
def projection (d : Descriptor) (bound : NameSet) : NameSet := d.declared.diff bound

end Descriptor

end ServiceClause
