import ServiceClause.Error

/-!
# Headers

A request carries named values. Names are compared without regard to case and are kept in lower
case; a later value replaces an earlier one of the same name.

## Main definitions

* `ServiceClause.Http.headerName?`, `ServiceClause.Http.isHeaderValue` — what may be sent.
* `ServiceClause.Http.Headers` — named values.
* `ServiceClause.Http.Headers.addConfigured` — the values that a configuration adds.
-/

set_option autoImplicit false

namespace ServiceClause.Http

/-- Whether a character may occur in the name of a header. -/
def isHeaderNameChar (c : Char) : Bool :=
  c.toNat < 0x80 && (c.isAlphanum || "!#$%&'*+-.^_|~".toList.contains c || c == Char.ofNat 0x60)

/-- The name in lower case, if it may be sent. -/
def headerName? (name : String) : Option String :=
  if name ≠ "" ∧ name.toList.all isHeaderNameChar then
    some (String.ofList (name.toList.map Char.toLower))
  else none

/-- Whether a value may be sent: it holds no control characters but tabs. -/
def isHeaderValue (value : String) : Bool :=
  value.toList.all fun c => c == '\t' || (0x20 ≤ c.toNat && c.toNat != 0x7f)

/-- Named values; a name occurs at most once. -/
abbrev Headers := List (String × String)

namespace Headers

/-- Sets the value of a name. -/
def set (name value : String) : Headers → Headers
  | [] => [(name, value)]
  | (n, v) :: rest => if n = name then (name, value) :: rest else (n, v) :: set name value rest

/-- Adds configured values to headers, up to the first one that may not be sent. -/
def addConfigured : Headers → List (String × String) → Except FederationError Headers
  | headers, [] => .ok headers
  | headers, (name, value) :: rest =>
    match headerName? name with
    | none => .error (.invalidConfig
        ("Invalid header name '" ++ name ++ "': invalid HTTP header name"))
    | some name =>
      if isHeaderValue value then addConfigured (set name value headers) rest
      else .error (.invalidConfig "Invalid header value: failed to parse header value")

/-- The headers in the order of their names. -/
def sorted (headers : Headers) : Headers := headers.mergeSort fun a b => decide (a.1 ≤ b.1)

end Headers

end ServiceClause.Http
