import ServiceClause.Json.Lexeme

/-!
# Reading JSON documents

A document is read lexeme by lexeme. The reader keeps the arrays and objects that have been opened
and knows what may come next, so values may be nested to any depth.

## Main definitions

* `ServiceClause.Json.Reader` — what has been read and what may come next.
* `ServiceClause.Json.Reader.step` — reads one lexeme.
* `ServiceClause.Json.read` — the value that a document denotes.
-/

set_option autoImplicit false

namespace ServiceClause.Json

/-- An array or object that has been opened, with a part of it still to be read. -/
inductive Frame where
  /-- An array, with the elements before the next in reverse. -/
  | array (before : List Json)
  /-- An object, with the members before the next in reverse and the key of the next. -/
  | object (before : List (Option String × Json)) (key : Option String)

/-- What may come next, and what has been read before it. -/
inductive Reader where
  /-- A value. -/
  | value (stack : List Frame)
  /-- The first element of an array, or its end. -/
  | firstElement (stack : List Frame)
  /-- The first key of an object, or its end. -/
  | firstKey (stack : List Frame)
  /-- A key. -/
  | key (before : List (Option String × Json)) (stack : List Frame)
  /-- The colon after a key. -/
  | colon (before : List (Option String × Json)) (key : Option String) (stack : List Frame)
  /-- The comma after an element, or the end of the array. -/
  | elementEnd (before : List Json) (stack : List Frame)
  /-- The comma after a member, or the end of the object. -/
  | memberEnd (before : List (Option String × Json)) (stack : List Frame)
  /-- Nothing: the document is complete. -/
  | done (v : Json)

namespace Reader

/-- The reader after a complete value. -/
def complete (v : Json) : List Frame → Reader
  | [] => done v
  | .array before :: stack => elementEnd (v :: before) stack
  | .object before k :: stack => memberEnd ((k, v) :: before) stack

/-- Reads a lexeme where a value has to begin. -/
def beginValue (stack : List Frame) : Lexeme → Option Reader
  | .scalar v => some (complete v stack)
  | .mark '[' => some (firstElement stack)
  | .mark '\x7b' => some (firstKey stack)
  | .mark _ => none

/-- Reads one lexeme. -/
def step : Reader → Lexeme → Option Reader
  | value stack, x => beginValue stack x
  | firstElement stack, .mark ']' => some (complete (.array []) stack)
  | firstElement stack, x => beginValue (.array [] :: stack) x
  | firstKey stack, .mark '\x7d' => some (complete (.object []) stack)
  | firstKey stack, .scalar (.str k) => some (colon [] k stack)
  | key before stack, .scalar (.str k) => some (colon before k stack)
  | colon before k stack, .mark ':' => some (value (.object before k :: stack))
  | elementEnd before stack, .mark ',' => some (value (.array before :: stack))
  | elementEnd before stack, .mark ']' => some (complete (.array before.reverse) stack)
  | memberEnd before stack, .mark ',' => some (key before stack)
  | memberEnd before stack, .mark '\x7d' => some (complete (.object before.reverse) stack)
  | _, _ => none

/-- The value of a complete document. -/
def result? : Reader → Option Json
  | done v => some v
  | _ => none

end Reader

/-- The value that a document denotes, nothing if it is not JSON. -/
def read (document : List Symbol) : Option Json := do
  let l ← lexemes document
  (← l.foldlM Reader.step (.value [])).result?

end ServiceClause.Json
