/-!
# Classes of characters given by ranges of code points

A property of characters that has no rule, only data, is a table of ranges: its members are the
characters whose code point lies in one of them.

## Main definitions

* `ServiceClause.CodeRange` — a range of code points, both ends included.
* `ServiceClause.CodeRange.covers` — membership of a character in a table of ranges.
-/

set_option autoImplicit false

namespace ServiceClause

/-- A range of code points, both ends included. -/
structure CodeRange where
  /-- The first code point. -/
  first : Nat
  /-- The last code point. -/
  last : Nat
deriving DecidableEq, Repr

namespace CodeRange

/-- Whether the code point of `c` lies in the range. -/
def contains (r : CodeRange) (c : Char) : Bool :=
  r.first ≤ c.toNat && c.toNat ≤ r.last

/-- The ranges written as pairs of first and last code point. -/
def ofPairs (pairs : List (Nat × Nat)) : List CodeRange :=
  pairs.map fun p => ⟨p.1, p.2⟩

/-- Whether one of the ranges contains `c`. -/
def covers (table : List CodeRange) (c : Char) : Bool :=
  table.any (·.contains c)

theorem contains_iff {r : CodeRange} {c : Char} :
    r.contains c = true ↔ r.first ≤ c.toNat ∧ c.toNat ≤ r.last := by
  simp [contains]

theorem covers_iff {table : List CodeRange} {c : Char} :
    covers table c = true ↔ ∃ r ∈ table, r.first ≤ c.toNat ∧ c.toNat ≤ r.last := by
  simp [covers, contains_iff]

end CodeRange

end ServiceClause
