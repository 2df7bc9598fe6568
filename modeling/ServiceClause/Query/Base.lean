import ServiceClause.Text.Blank

/-!
# The base of a query

Relative IRIs in a query are resolved against its base. A base is declared at the beginning of a
line, by the word `BASE` in any case and an IRI. A query that declares none gets the declaration of
the given base as its first line.

## Main definitions

* `ServiceClause.declaresBase` — whether a line of a query begins with the declaration of a base.
* `ServiceClause.withBase` — the query with a base.
-/

set_option autoImplicit false

namespace ServiceClause

/-- Whether `c` is the letter `lower` in any case. The long s is a small letter s. -/
def isLetterFold (lower c : Char) : Bool :=
  c == lower || c == lower.toUpper || (lower == 's' && c.toNat == 0x17f)

/-- Whether the text begins with the declaration of a base, white space aside. -/
def beginsWithBase (cs : List Char) : Bool :=
  match cs.dropWhile isBlank with
  | b :: a :: s :: e :: rest =>
    isLetterFold 'b' b && isLetterFold 'a' a && isLetterFold 's' s && isLetterFold 'e' e &&
      (rest.dropWhile isBlank).head? == some '<'
  | _ => false

/-- Whether the declaration of a base follows some line break. -/
def beginsLineWithBase : List Char → Bool
  | [] => false
  | c :: rest => (c == '\n' && beginsWithBase rest) || beginsLineWithBase rest

/-- Whether a line of the query begins with the declaration of a base. -/
def declaresBase (cs : List Char) : Bool :=
  beginsWithBase cs || beginsLineWithBase cs

/-- The query, headed by the declaration of `base?` unless it declares a base itself. -/
def withBase (query : String) (base? : Option String) : String :=
  match base? with
  | none => query
  | some base =>
    if base.isEmpty || declaresBase query.toList then query
    else "BASE <" ++ base ++ ">\n" ++ query

end ServiceClause
