/-!
# JSON values

The values that documents are made of. Only whole numbers matter to this library; any other number
is kept as it was written. A text may have been written with escapes that denote no character, and
then it has no value.

## Main definitions

* `ServiceClause.Json` — a value.
* `ServiceClause.Json.text`, `strings` — values made from texts.
-/

set_option autoImplicit false

namespace ServiceClause

/-- A JSON value. -/
inductive Json where
  /-- The value that stands for nothing. -/
  | null
  /-- A truth value. -/
  | bool (b : Bool)
  /-- A whole number. -/
  | integer (n : Int)
  /-- A number with a fraction, with an exponent, or zero with a minus sign. -/
  | decimal (written : String)
  /-- A text, or nothing if it cannot be decoded. -/
  | str (text? : Option String)
  /-- The elements of an array in their order. -/
  | array (elements : List Json)
  /-- The members of an object in their order. -/
  | object (members : List (Option String × Json))
deriving Inhabited, Repr

namespace Json

/-- A text. -/
def text (s : String) : Json := str (some s)

/-- An array of texts. -/
def strings (l : List String) : Json := array (l.map text)

/-- An object without members whose value is missing. -/
def record (members : List (String × Option Json)) : Json :=
  object (members.filterMap fun m => m.2.map fun v => (some m.1, v))

end Json

end ServiceClause
