import ServiceClause.Http.Host
import ServiceClause.Http.Url
import ServiceClause.Http.Url.Path

/-!
# Reading URLs

A text is read as an absolute URL. How it is read depends on its scheme: one with a network address
has to have a host, a file may have one, and any other text may have one after two slashes, or may
be a path of its own kind.

## Main definitions

* `ServiceClause.Http.Url.read` — the URL that a text denotes, or why it denotes none.
-/

set_option autoImplicit false

namespace ServiceClause.Http.Url

/-! ## Schemes -/

/-- Whether a character may occur in a scheme after its first letter. -/
def isSchemeChar (c : Char) : Bool := c.isAlphanum || c == '+' || c == '-' || c == '.'

/-- The text without the spaces and control characters at its ends. -/
def trimmed (cs : List Char) : List Char :=
  let isOuter : Char → Bool := fun c => c.toNat ≤ 0x20
  ((cs.dropWhile isOuter).reverse.dropWhile isOuter).reverse

/-- The scheme in front of a text, and what follows its colon. -/
def splitScheme? (cs : List Char) : Option (String × List Char) :=
  match unskipped (cs.takeWhile (· != ':')), cs.dropWhile (· != ':') with
  | c :: name, _ :: rest =>
    if c.isAlpha && name.all isSchemeChar then
      some (String.ofList ((c :: name).map Char.toLower), rest)
    else none
  | _, _ => none

/-! ## Query and fragment -/

/-- What is encoded in a query. -/
def queryReserved (special : Bool) : List Char :=
  [' ', '"', '#', '<', '>'] ++ if special then ['\''] else []

/-- What follows the path. -/
structure Tail where
  /-- What follows a question mark. -/
  query? : Option String
  /-- What follows a number sign. -/
  fragment? : Option String

/-- Splits off what follows the path. -/
def splitTail (special : Bool) (cs : List Char) : List Char × Tail :=
  let encoded (reserved : List Char) (cs : List Char) : Option String :=
    cs.tail?.map fun cs => String.ofList (percentEncode reserved (unskipped cs))
  let main := cs.takeWhile (· != '#')
  (main.takeWhile (· != '?'),
    { query? := encoded (queryReserved special) (main.dropWhile (· != '?'))
      fragment? := encoded fragmentReserved (cs.dropWhile (· != '#')) })

/-! ## The host and what stands around it -/

/-- What is encoded in the name of a user. -/
def userReserved : List Char :=
  pathReserved ++ ['/', ':', ';', '=', '@', '[', '\\', ']', '^', '|']

/-- The parts of a text before and after the last occurrence of a character. -/
def splitLast? (separator : Char) (cs : List Char) : Option (List Char × List Char) :=
  match cs.reverse.dropWhile (· != separator) with
  | [] => none
  | _ :: before => some (before.reverse, (cs.reverse.takeWhile (· != separator)).reverse)

/-- The name and the password in front of the host. -/
def userText (cs : List Char) : String :=
  let name := cs.takeWhile (· != ':')
  let password := (cs.dropWhile (· != ':')).drop 1
  String.ofList (percentEncode userReserved name ++
    if password = [] then [] else ':' :: percentEncode userReserved password)

/-- The host in front of a port; colons in brackets belong to the host. -/
def splitHost (inBrackets : Bool) : List Char → List Char × List Char
  | [] => ([], [])
  | c :: cs =>
    if c = ':' ∧ !inBrackets then ([], c :: cs)
    else
      let inside := if c = '[' then true else if c = ']' then false else inBrackets
      (c :: (splitHost inside cs).1, (splitHost inside cs).2)

/-- The port that digits denote, unless it is the one of the scheme. -/
def port (scheme : String) (digits : List Char) : Except UrlError (Option Nat) :=
  match decimal? digits with
  | none => .ok none
  | some n =>
    if 65535 < n then .error .invalidPort
    else .ok (if defaultPort? scheme = some n then none else some n)

/-- What stands between the slashes and the path. -/
structure Authority where
  /-- The name and the password. -/
  user : String
  /-- The host. -/
  host : String
  /-- The port, unless it is the one of the scheme. -/
  port? : Option Nat
  /-- What follows the port. A backslash ends it. -/
  rest : List Char

/-- The user, the host and the port that a text denotes. `isLast` says that nothing follows it. -/
def authority (scheme : String) (isLast : Bool) (cs : List Char) : Except UrlError Authority := do
  let user? := splitLast? '@' cs
  let (hostText, portText) := splitHost false ((user?.map (·.2)).getD cs)
  let user := userText ((user?.map (·.1)).getD [])
  let rest := (portText.drop 1).dropWhile Char.isDigit
  if hostText = [] ∧ (isSpecial scheme ∨ portText ≠ [] ∨ user ≠ "" ∨
      (user?.any (·.1 = []) ∧ !isLast)) then .error .emptyHost
  else
    let host ← if isSpecial scheme then host hostText else opaqueHost hostText
    if rest.head?.any (· != '\\') then .error .invalidPort
    let port? ← port scheme ((portText.drop 1).takeWhile Char.isDigit)
    return { user, host, port?, rest }

/-! ## The kinds of URLs -/

/-- The URL of a scheme whose host and path are given. -/
def withAuthority (scheme : String) (cs : List Char) (tail : Tail) : Except UrlError Url := do
  let special := isSpecial scheme
  let after := cs.dropWhile (!isSlash special ·)
  let isLast := after.isEmpty && tail.query?.isNone && tail.fragment?.isNone
  let a ← authority scheme isLast (unskipped (cs.takeWhile (!isSlash special ·)))
  let way := if a.rest.isEmpty then after.drop 1 else a.rest ++ after
  return {
    scheme, user := a.user, host? := some a.host, port? := a.port?
    path :=
      if !special && a.rest.isEmpty && after.isEmpty then ""
      else (Trail.start.follow false (segments special way)).path false
    query? := tail.query?, fragment? := tail.fragment? }

/-- The URL of a file whose trail is followed. -/
def ofFile (host : String) (trail : Trail) (tail : Tail) : Url where
  scheme := "file"
  user := ""
  host? := some (if trail.onDrive then "" else host)
  port? := none
  path := trail.path true
  query? := tail.query?
  fragment? := tail.fragment?

/-- The URL of a file whose host and path are given. A drive is no host. -/
def withFileHost (cs : List Char) (tail : Tail) : Except UrlError Url := do
  let follow (cs : List Char) : Trail := Trail.start.follow true (segments true cs)
  let after := cs.dropWhile (!isSlash true ·)
  let text := unskipped (cs.takeWhile (!isSlash true ·))
  if isDrive text then return ofFile "" (follow cs) tail
  else if text = [] then return ofFile "" (follow after) tail
  else
    let host ← host text
    if host = "localhost" then return ofFile "" (follow after) tail
    else return ofFile host (follow (after.drop 1)) tail

/-- A text without its first character that is not skipped. -/
def dropOne (cs : List Char) : List Char := (cs.dropWhile isSkipped).drop 1

/-- The URL that a text denotes. -/
def read (text : String) : Except UrlError Url :=
  match splitScheme? (trimmed text.toList) with
  | none => .error .relative
  | some (scheme, rest) =>
    let special := isSpecial scheme
    let (main, tail) := splitTail special rest
    let slashes := ((unskipped main).takeWhile (isSlash special)).length
    if (defaultPort? scheme).isSome then
      withAuthority scheme (main.dropWhile fun c => isSlash true c || isSkipped c) tail
    else if special then
      if 2 ≤ slashes then withFileHost (dropOne (dropOne main)) tail
      else
        let way := if slashes = 1 then dropOne main else main
        .ok (ofFile "" (Trail.start.follow true (segments true way)) tail)
    else if 2 ≤ slashes then withAuthority scheme (dropOne (dropOne main)) tail
    else .ok {
      scheme, user := "", host? := none, port? := none
      path :=
        if slashes = 1 then
          (Trail.start.follow false (segments false (dropOne main))).path false
        else String.ofList (percentEncode [] (unskipped main))
      query? := tail.query?, fragment? := tail.fragment? }

end ServiceClause.Http.Url
