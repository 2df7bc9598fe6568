import ServiceClause.Http.Percent

/-!
# URLs

A URL names a scheme, a host and a place at the host. It is kept in its normal form: the scheme and
the host in lower case, no port where it is the one of the scheme, no steps up and down in the path,
and characters that may not stand in a part encoded.

## Main definitions

* `ServiceClause.Http.Url` — a URL in its normal form.
* `ServiceClause.Http.Url.text` — the URL as a text.
* `ServiceClause.Http.Url.withoutUser` — the URL without a name and a password.
-/

set_option autoImplicit false

namespace ServiceClause.Http

/-- A URL in its normal form. -/
structure Url where
  /-- The scheme. -/
  scheme : String
  /-- What comes before the host and an `@`: a name and perhaps a password. -/
  user : String
  /-- The host, if there is one. -/
  host? : Option String
  /-- The port, unless it is the one of the scheme. -/
  port? : Option Nat
  /-- The path. -/
  path : String
  /-- What follows a question mark. -/
  query? : Option String
  /-- What follows a number sign. -/
  fragment? : Option String
deriving DecidableEq, Repr

namespace Url

/-! ## Schemes -/

/-- The port of a scheme that has a network address. -/
def defaultPort? (scheme : String) : Option Nat :=
  match scheme with
  | "http" => some 80
  | "https" => some 443
  | "ws" => some 80
  | "wss" => some 443
  | "ftp" => some 21
  | _ => none

/-- Whether URLs of a scheme are read by the rules for network addresses and files. -/
def isSpecial (scheme : String) : Bool := (defaultPort? scheme).isSome || scheme == "file"

/-! ## Writing -/

/-- The host with what stands around it. Where there is no host, a path with an empty first part
must not be taken for one. -/
def authorityText (u : Url) : String :=
  match u.host? with
  | none => if u.path.toList.take 2 = ['/', '/'] then "/." else ""
  | some host =>
    "//" ++ (if u.user = "" then "" else u.user ++ "@") ++ host ++
      (match u.port? with
        | none => ""
        | some n => ":" ++ toString n)

/-- The URL as a text. -/
def text (u : Url) : String :=
  u.scheme ++ ":" ++ u.authorityText ++ u.path ++
    (match u.query? with
      | none => ""
      | some q => "?" ++ q) ++
    (match u.fragment? with
      | none => ""
      | some f => "#" ++ f)

/-- Whether the URL has a host that is not empty. -/
def hasHost (u : Url) : Bool := u.host?.any (· ≠ "")

/-! ## Leaving out parts -/

/-- Whether an encoded text stands for characters. -/
def isEncodedText (cs : List Char) : Bool := (percentDecode cs).all Option.isSome

/-- The URL without the name and the password, unless the name stands for no text, or there is no
name and the password stands for none. -/
def withoutUser (u : Url) : Url :=
  let name := u.user.toList.takeWhile (· != ':')
  let password? := (u.user.toList.dropWhile (· != ':')).tail?
  if isEncodedText name && (name != [] || password?.any isEncodedText) then { u with user := "" }
  else u

/-- The URL without its fragment. -/
def withoutFragment (u : Url) : Url := { u with fragment? := none }

end Url

end ServiceClause.Http
