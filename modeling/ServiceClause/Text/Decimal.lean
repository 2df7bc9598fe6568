/-!
# Decimal numbers

Reading whole numbers written in the digits `0` to `9`.

## Main definitions

* `ServiceClause.decimal?` — the number that digits denote.
* `ServiceClause.natural?` — the same behind an optional plus sign.
* `ServiceClause.integer?` — the same behind an optional plus or minus sign.
-/

set_option autoImplicit false

namespace ServiceClause

/-- The value of a digit. -/
def digitValue (c : Char) : Nat := c.toNat - '0'.toNat

/-- The number that a run of digits denotes. -/
def decimalValue (cs : List Char) : Nat :=
  cs.foldl (fun n c => 10 * n + digitValue c) 0

/-- The number that one or more digits denote; nothing for any other text. -/
def decimal? (cs : List Char) : Option Nat :=
  if cs ≠ [] ∧ cs.all Char.isDigit then some (decimalValue cs) else none

/-- The number that one or more digits denote, perhaps behind a plus sign. -/
def natural? : List Char → Option Nat
  | '+' :: cs => decimal? cs
  | cs => decimal? cs

/-- The number that one or more digits denote, perhaps behind a plus or a minus sign. -/
def integer? : List Char → Option Int
  | '-' :: cs => (decimal? cs).map fun n => -(n : Int)
  | cs => (natural? cs).map Int.ofNat

end ServiceClause
