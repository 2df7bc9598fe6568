import ServiceClause.Http.Domain
import ServiceClause.Http.Percent
import ServiceClause.Text.Decimal
import ServiceClause.Text.Split

/-!
# Hosts

The host of a URL is a domain name or an address. It is kept in the form in which it is written
again: names in lower case and in ASCII, addresses in their shortest form.

## Main definitions

* `ServiceClause.Http.UrlError` — why a text is no URL.
* `ServiceClause.Http.host` — the host that a text denotes.
-/

set_option autoImplicit false

namespace ServiceClause.Http

/-- Why a text is no URL. -/
inductive UrlError where
  /-- There is no host where one has to be. -/
  | emptyHost
  /-- The host is no domain name. -/
  | invalidDomain
  /-- The port is no number or too large. -/
  | invalidPort
  /-- The host ends in a number, but is no address. -/
  | invalidAddress
  /-- The host is in brackets, but is no address. -/
  | invalidLongAddress
  /-- The host holds a character that may not occur in it. -/
  | invalidCharacter
  /-- There is no scheme. -/
  | relative
deriving DecidableEq, Repr

/-- The text shown to people. -/
def UrlError.message : UrlError → String
  | emptyHost => "empty host"
  | invalidDomain => "invalid international domain name"
  | invalidPort => "invalid port number"
  | invalidAddress => "invalid IPv4 address"
  | invalidLongAddress => "invalid IPv6 address"
  | invalidCharacter => "invalid domain character"
  | relative => "relative URL without a base"

/-! ## Addresses of four bytes -/

/-- The number that digits denote in a number system, nothing if one of them is no digit of it. -/
def numberIn? (radix : Nat) (cs : List Char) : Option Nat :=
  cs.foldlM (fun n c => do
    let d ← hexDigitValue? c
    if d < radix then some (radix * n + d) else none) 0

/-- The number that a part of an address denotes: hexadecimal behind `0x`, octal behind `0`. -/
def addressPart? : List Char → Option Nat
  | [] => none
  | '0' :: 'x' :: cs => numberIn? 16 cs
  | '0' :: 'X' :: cs => numberIn? 16 cs
  | '0' :: c :: cs => numberIn? 8 (c :: cs)
  | cs => numberIn? 10 cs

/-- The parts of an address, of which the last one may be empty. -/
def addressParts (cs : List Char) : List (List Char) :=
  let parts := partsBetween '.' cs
  if 1 < parts.length ∧ parts.getLast? = some [] then parts.dropLast else parts

/-- Whether a host has to be an address: its last part is a number. -/
def endsInNumber (cs : List Char) : Bool :=
  match (addressParts cs).getLast? with
  | none => false
  | some part =>
    (part ≠ [] && part.all Char.isDigit) ||
      ((part.take 2 == ['0', 'x'] || part.take 2 == ['0', 'X']) && (addressPart? part).isSome)

/-- The value of an address whose parts are numbers: each is a byte, but the last one fills the rest
of the four bytes. -/
def addressValue? : Nat → List Nat → Option Nat
  | _, [] => none
  | bytes, [n] => if n < Nat.pow 256 bytes then some n else none
  | bytes, n :: rest => do
    if n < 256 ∧ 1 < bytes then
      return n * Nat.pow 256 (bytes - 1) + (← addressValue? (bytes - 1) rest)
    else none

/-- A number of four bytes as an address. -/
def addressText (n : Nat) : String :=
  ".".intercalate
    ([n / 16777216, n / 65536 % 256, n / 256 % 256, n % 256].map fun b => toString b)

/-- The address that a text denotes. -/
def address (cs : List Char) : Except UrlError String :=
  match (addressParts cs).mapM addressPart? with
  | none => .error .invalidAddress
  | some parts =>
    if 4 < parts.length then .error .invalidAddress
    else match addressValue? 4 parts with
      | none => .error .invalidAddress
      | some n => .ok (addressText n)

/-! ## Addresses of eight groups -/

/-- The group that one to four hexadecimal digits denote. -/
def group? (cs : List Char) : Option Nat :=
  if cs = [] ∨ 4 < cs.length then none else numberIn? 16 cs

/-- The byte that decimal digits without superfluous zeros denote. -/
def byte? (cs : List Char) : Option Nat := do
  let n ← decimal? cs
  if n < 256 ∧ (cs.length = 1 ∨ cs.head? ≠ some '0') then some n else none

/-- The two groups that four bytes with points between them denote. -/
def bytesAsGroups? (cs : List Char) : Option (List Nat) := do
  match ← (partsBetween '.' cs).mapM byte? with
  | [a, b, c, d] => some [256 * a + b, 256 * c + d]
  | _ => none

/-- The groups with colons between them; the last one may be four bytes. -/
def groups? : List (List Char) → Option (List Nat)
  | [] => some []
  | [cs] => if cs.contains '.' then bytesAsGroups? cs else (group? cs).map ([·])
  | cs :: rest => do return (← group? cs) :: (← groups? rest)

/-- The groups of a side of the double colon, which may be empty. -/
def side? (cs : List Char) : Option (List Nat) :=
  if cs = [] then some [] else groups? (partsBetween ':' cs)

/-- The text before and after the first double colon. -/
def splitDoubleColon? : List Char → Option (List Char × List Char)
  | ':' :: ':' :: rest => some ([], rest)
  | c :: rest => (splitDoubleColon? rest).map fun p => (c :: p.1, p.2)
  | [] => none

/-- The eight groups that a text denotes; a double colon stands for the groups that are missing. -/
def longAddress? (cs : List Char) : Option (List Nat) :=
  match splitDoubleColon? cs with
  | none => do
    let l ← side? cs
    if l.length = 8 then some l else none
  | some (before, after) => do
    let l ← if before.contains '.' then none else side? before
    let r ← side? after
    if l.length + r.length < 8 then
      some (l ++ List.replicate (8 - l.length - r.length) 0 ++ r)
    else none

/-- The place and the length of the first longest run of at least two zeros. -/
def longestZeros (groups : List Nat) : Option (Nat × Nat) :=
  let runs := (List.range groups.length).map fun i =>
    (i, ((groups.drop i).takeWhile (· == 0)).length)
  runs.foldl (fun best r =>
    match best with
    | none => if 2 ≤ r.2 then some r else none
    | some b => if b.2 < r.2 then some r else best) none

/-- Groups in hexadecimal digits with colons between them. -/
def groupsText (groups : List Nat) : String :=
  ":".intercalate (groups.map fun n => String.ofList (Nat.toDigits 16 n))

/-- Eight groups as an address. -/
def longAddressText (groups : List Nat) : String :=
  match longestZeros groups with
  | none => groupsText groups
  | some (i, n) => groupsText (groups.take i) ++ "::" ++ groupsText (groups.drop (i + n))

/-! ## Hosts -/

/-- Whether a character may not occur in a host that is not understood as a domain name. -/
def isForbiddenInHost (c : Char) : Bool :=
  c == '\x00' || c == '\t' || c == '\n' || c == '\r' || forbiddenMarks.contains c

/-- The host that a text denotes in a URL of a scheme with a network address. -/
def host (cs : List Char) : Except UrlError String :=
  match cs with
  | [] => .error .emptyHost
  | '[' :: rest =>
    if rest.getLast? = some ']' then
      match longAddress? rest.dropLast with
      | some groups => .ok ("[" ++ longAddressText groups ++ "]")
      | none => .error .invalidLongAddress
    else .error .invalidLongAddress
  | _ =>
    match domain? (Utf8.lossyText (percentDecode cs)).toList with
    | none => .error .invalidDomain
    | some name =>
      if name = [] then .error .emptyHost
      else if endsInNumber name then address name
      else .ok (String.ofList name)

/-- The host that a text denotes in a URL of any other scheme. -/
def opaqueHost (cs : List Char) : Except UrlError String :=
  match cs with
  | '[' :: _ => host cs
  | _ =>
    if cs.any isForbiddenInHost then .error .invalidCharacter
    else .ok (String.ofList (percentEncode [] cs))

end ServiceClause.Http
