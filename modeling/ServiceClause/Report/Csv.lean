/-!
# Records of separated fields

A document is a list of records. A record ends with a line feed, and commas separate its fields. A
field that holds a comma, a quote or a line break stands between quotes, and then a quote in it is
written twice.

## Main definitions

* `ServiceClause.Csv.field`, `ServiceClause.Csv.record`, `ServiceClause.Csv.document` — writing.
* `ServiceClause.Csv.read` — reading.
-/

set_option autoImplicit false

namespace ServiceClause

namespace Csv

/-- A field as text. -/
abbrev Field := List Char

/-- The fields of one line. -/
abbrev Record := List Field

/-! ## Writing -/

/-- Whether a character makes quotes necessary. -/
def isSpecial (c : Char) : Bool := c == ',' || c == '"' || c == '\n' || c == '\r'

/-- A text with every quote doubled. -/
def doubleQuotes (cs : List Char) : List Char :=
  cs.flatMap fun c => if c = '"' then ['"', '"'] else [c]

/-- A field as it is written. -/
def field (f : Field) : List Char :=
  if f.any isSpecial then '"' :: doubleQuotes f ++ ['"'] else f

/-- A record as it is written. -/
def record (r : Record) : List Char := [','].intercalate (r.map field) ++ ['\n']

/-- A document as it is written. -/
def document (records : List Record) : List Char := records.flatMap record

/-! ## Reading -/

/-- Where in a field a reader is. -/
inductive Place where
  /-- Before its first character. -/
  | start
  /-- Inside a field without quotes. -/
  | bare
  /-- Between the quotes of a field. -/
  | quoted
  /-- Behind a quote that ends the field, or is the first one of a pair. -/
  | closed
deriving DecidableEq, Repr

/-- Reads on from a place in a field, of which `seen` has been read, in a record with the fields
`done`. Nothing is read from a document with a quote inside a field without quotes, with a character
behind the closing quote, or with a record that does not end. -/
def readFrom : Place → (done : Record) → (seen : Field) → List Char → Option (List Record)
  | .start, [], _, [] => some []
  | _, _, _, [] => none
  | .quoted, done, seen, c :: cs =>
    if c = '"' then readFrom .closed done seen cs else readFrom .quoted done (seen ++ [c]) cs
  | place, done, seen, c :: cs =>
    if c = ',' then readFrom .start (done ++ [seen]) [] cs
    else if c = '\n' then (readFrom .start [] [] cs).map ((done ++ [seen]) :: ·)
    else match place with
      | .start => if c = '"' then readFrom .quoted done seen cs else readFrom .bare done [c] cs
      | .closed => if c = '"' then readFrom .quoted done (seen ++ [c]) cs else none
      | _ => if c = '"' then none else readFrom .bare done (seen ++ [c]) cs

/-- The records of a document. -/
def read (cs : List Char) : Option (List Record) := readFrom .start [] [] cs

end Csv

end ServiceClause
