import ServiceClause.Http.Domain.Direction
import ServiceClause.Http.Domain.Joiner
import ServiceClause.Http.Domain.Replacement
import ServiceClause.Http.Punycode
import ServiceClause.Text.Canonical
import ServiceClause.Text.Mark
import ServiceClause.Text.Split

/-!
# Domain names

A domain name consists of labels with full stops between them. It may hold characters of every
script; on the way to its host it is written in ASCII, where a label with other characters has a
mark in front and is written as differences. Names that differ only in the case or in another look
of their characters are the same, and so have the same form in ASCII.

## Main definitions

* `ServiceClause.Http.uniform?` — a name in which characters have one look only.
* `ServiceClause.Http.readLabel?` — the label that a label, perhaps in ASCII, stands for.
* `ServiceClause.Http.isValidLabel` — what labels have to obey.
* `ServiceClause.Http.domain?` — a domain name in ASCII.
-/

set_option autoImplicit false

namespace ServiceClause.Http

/-! ## Characters -/

/-- Whether a text is in ASCII. -/
def isAscii (cs : List Char) : Bool := cs.all (·.toNat < 0x80)

/-- The marks that may not occur in a host. -/
def forbiddenMarks : List Char := " #/:<>?@[\\]^|".toList

/-- Whether a character may not occur in a domain name. -/
def isForbiddenInDomain (c : Char) : Bool :=
  c.toNat < 0x20 || c.toNat == 0x7f || c == '%' || forbiddenMarks.contains c

/-- The text in which characters have one look only, if all of them may occur in a domain name. -/
def uniform? (cs : List Char) : Option (List Char) := do
  return canonical (← cs.mapM replacement?).flatten

/-! ## Labels -/

/-- What stands in front of a label written as differences. -/
def encodedMark : List Char := "xn--".toList

/-- The number of characters that a label with other characters than ASCII may have. -/
def labelLimit : Nat := 1000

/-- The number of characters that such a label may have in ASCII. -/
def encodedLimit : Nat := 2000

/-- The label that a uniform label stands for. A label in ASCII must not stand for one that is not
uniform, or that need not be written so. -/
def readLabel? (label : List Char) : Option (List Char) :=
  if label.take 4 = encodedMark then
    let encoded := label.drop 4
    if encoded = [] ∨ encoded.getLast? = some '-' ∨ encodedLimit < encoded.length ∨
        !isAscii encoded then none
    else do
      let decoded ← Punycode.decode? encoded
      if !isAscii decoded ∧ uniform? decoded = some decoded then some decoded else none
  else some label

/-- Whether a label begins with a character that is no mark, has no character that a host must not
have, and only joiners that change something, and is not too long. -/
def isValidLabel (label : List Char) : Bool :=
  !label.any isForbiddenInDomain &&
    (isAscii label ||
      (!label.head?.any isMark && joinersApply label && label.length ≤ labelLimit))

/-- A label in ASCII. -/
def writeLabel (label : List Char) : List Char :=
  if isAscii label then label else encodedMark ++ Punycode.encode label

/-! ## Names -/

/-- A domain name in ASCII. -/
def domain? (cs : List Char) : Option (List Char) := do
  let labels ← (partsBetween '.' (← uniform? cs)).mapM readLabel?
  if labels.all isValidLabel && directed labels then
    some (List.intercalate ['.'] (labels.map writeLabel))
  else none

end ServiceClause.Http
